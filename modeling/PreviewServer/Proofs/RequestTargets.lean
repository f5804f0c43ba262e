import PreviewServer.Proofs.Layers
import PreviewServer.Proofs.Session

/-!
# Only the path of a target counts

A target may write its path alone or after a scheme and an authority, and with a query or a fragment
behind it. All these spellings are read as the same path. The layers of a policy and the log look at
nothing else of a target, and the file service puts the rest of it into one header only: the
location to which a directory without a slash is redirected.

## Main definitions

* `Site`: a scheme with an authority
* `Spelling`: what may stand around a path in a target
* `Response.SameButLocation`, `SameAnswerButLocation`: responses and answers that differ in their
  location at most

## Main results

* `Spelling.ofText_text`: how a target is read, whatever stands around its path
* `serveFiles_sameButLocation`: what the file service reads of a request
* `Policy.serve_sameButLocation`: the layers of a policy keep answers alike
* `Router.answers_by_path`: all spellings of a path get the same answer but for the location
-/

namespace PreviewServer

/-! ## Spellings of a path -/

/-- A place on the web: a scheme and an authority that ends where a path begins. -/
structure Site where
  scheme : String
  authority : String
  legalScheme : scheme.toList.all Target.isSchemeChar = true
  legalAuthority : authority.toList.all (!Target.endsAuthority ·) = true

/-- The text of a site, as it stands in front of a path. -/
def Site.text (site : Site) : String :=
  site.scheme ++ "://" ++ site.authority

/-- What may stand around a path in a target: a site in front of it, a query and a fragment behind
it. A hash sign would end the query; a fragment may hold anything. -/
structure Spelling where
  site : Option Site
  query : Option String
  fragment : Option String
  legalQuery : ∀ text ∈ query, '#' ∉ text.toList

/-- A part of a target with the mark in front of it, or nothing if there is no such part. -/
def marked (mark : Char) : Option String → String
  | none => ""
  | some text => String.ofList (mark :: text.toList)

/-- The text of a target with a given path. -/
def Spelling.text (w : Spelling) (path : String) : String :=
  w.site.elim "" Site.text ++ (path ++ (marked '?' w.query ++ marked '#' w.fragment))

/-- The target with a given path. The fragment is no part of it. -/
def Spelling.target (w : Spelling) (path : String) : Target :=
  w.site.elim (.origin path w.query) fun site =>
    .absolute (Target.canonicalScheme site.scheme) site.authority path w.query

/-- A path that is rooted and holds neither a question mark nor a hash sign. -/
structure IsPlainPath (path : String) : Prop where
  rooted : path.toList.head? = some '/'
  noQuery : '?' ∉ path.toList
  noFragment : '#' ∉ path.toList

namespace Spelling

variable (w : Spelling) {path : String}

theorem path_target : (w.target path).path = path := by
  unfold target
  cases w.site with
  | none => rfl
  | some site => rfl

/-- There is a path to which a slash can be appended. -/
theorem isSome_withSlash?_target : (w.target path).withSlash?.isSome = true := by
  unfold target
  cases w.site with
  | none => rfl
  | some site => rfl

end Spelling

/-! ## Reading targets -/

section Cut

variable {α : Type} {test : α → Bool} {body rest : List α}

/-- What passes a test is taken as a whole, up to the first element that does not. -/
theorem takeWhile_append_of_stop (inside : ∀ a ∈ body, test a = true)
    (stop : ∀ a, rest.head? = some a → test a = false) : (body ++ rest).takeWhile test = body := by
  rw [List.takeWhile_append_of_pos inside]
  cases rest with
  | nil => exact List.append_nil body
  | cons a rest => rw [List.takeWhile_cons_of_neg (by simp [stop a rfl]), List.append_nil]

theorem dropWhile_append_of_stop (inside : ∀ a ∈ body, test a = true)
    (stop : ∀ a, rest.head? = some a → test a = false) : (body ++ rest).dropWhile test = rest := by
  rw [List.dropWhile_append_of_pos inside]
  cases rest with
  | nil => rfl
  | cons a rest => rw [List.dropWhile_cons_of_neg (by simp [stop a rfl])]

end Cut

section Marked

variable {c mark : Char} {text? : Option String}

theorem head?_marked (first : (marked mark text?).toList.head? = some c) : c = mark := by
  cases text? with
  | none => cases first
  | some text =>
    rw [marked, String.toList_ofList] at first
    exact (Option.some.inj first).symm

theorem notMem_marked (other : c ≠ mark) (free : ∀ text ∈ text?, c ∉ text.toList) :
    c ∉ (marked mark text?).toList := by
  cases text? with
  | none => exact List.not_mem_nil
  | some text =>
    rw [marked, String.toList_ofList, List.mem_cons, not_or]
    exact ⟨other, free text rfl⟩

end Marked

namespace Target

/-- **A path ends at the first question mark or hash sign**, and the query is what stands between
them. -/
theorem splitPath_text {path : String} (plain : IsPlainPath path) {query : Option String}
    (legal : ∀ text ∈ query, '#' ∉ text.toList) (fragment : Option String) :
    splitPath (path ++ (marked '?' query ++ marked '#' fragment)).toList = (path, query) := by
  have written : (path ++ (marked '?' query ++ marked '#' fragment)).toList.takeWhile (· ≠ '#') =
      path.toList ++ (marked '?' query).toList := by
    rw [String.toList_append, String.toList_append, ← List.append_assoc]
    apply takeWhile_append_of_stop
    · intro c hc
      have unmarked := notMem_marked (by decide : '#' ≠ '?') legal
      have free := List.not_mem_append plain.noFragment unmarked
      exact decide_eq_true (ne_of_mem_of_not_mem hc free)
    · intro c first
      simp [head?_marked first]
  have inPath : ∀ c ∈ path.toList, decide (c ≠ '?') = true := by
    intro c hc
    exact decide_eq_true (ne_of_mem_of_not_mem hc plain.noQuery)
  have stop : ∀ c, (marked '?' query).toList.head? = some c → decide (c ≠ '?') = false := by
    intro c first
    simp [head?_marked first]
  simp only [splitPath, written, takeWhile_append_of_stop inPath stop,
    dropWhile_append_of_stop inPath stop, String.ofList_toList]
  -- The question mark itself belongs to neither part.
  cases query with
  | none => rfl
  | some text => simp [marked]

theorem ofText_of_rooted {s : String} (rooted : s.toList.head? = some '/') :
    ofText s = .origin (splitPath s.toList).1 (splitPath s.toList).2 := by
  obtain ⟨cs, hcs⟩ := List.head?_eq_some_iff.mp rooted
  rw [ofText, hcs]
  rfl

/-- A text that begins with a scheme and two slashes is read as an absolute target. -/
theorem ofText_of_scheme {scheme : String} (legal : scheme.toList.all isSchemeChar = true)
    (rest : String) :
    ofText (scheme ++ "://" ++ rest) = ofParts scheme.toList rest.toList := by
  rw [List.all_eq_true] at legal
  have chars : (scheme ++ "://" ++ rest).toList =
      scheme.toList ++ ':' :: '/' :: '/' :: rest.toList := by
    rw [String.toList_append, String.toList_append, List.append_assoc]
    rfl
  have stop : ∀ c, (':' :: '/' :: '/' :: rest.toList).head? = some c → isSchemeChar c = false := by
    rintro c ⟨⟩
    decide
  -- Neither an asterisk nor a slash begins a scheme, so the text has no other form.
  have first : ∀ {c cs}, scheme.toList ++ ':' :: '/' :: '/' :: rest.toList = c :: cs →
      isSchemeChar c = true ∨ c = ':' := by
    intro c cs begins
    cases letters : scheme.toList with
    | nil =>
      rw [letters] at begins
      exact .inr (List.cons.inj begins).1.symm
    | cons d ds =>
      rw [letters] at begins legal
      exact .inl ((List.cons.inj begins).1 ▸ legal d List.mem_cons_self)
  rw [ofText, chars]
  split
  · rename_i asterisk
    exact absurd (first asterisk) (by decide)
  · rename_i slash
    exact absurd (first slash) (by decide)
  · rw [dropWhile_append_of_stop legal stop, takeWhile_append_of_stop legal stop]
    rfl

/-- The authority of an absolute target ends where its path begins. -/
theorem ofParts_text {authority path tail : String}
    (legal : authority.toList.all (!endsAuthority ·) = true)
    (rooted : path.toList.head? = some '/') (scheme : List Char) :
    ofParts scheme (authority ++ (path ++ tail)).toList =
      .absolute (canonicalScheme (String.ofList scheme)) authority
        (if (splitPath (path ++ tail).toList).1 = "" then "/"
          else (splitPath (path ++ tail).toList).1)
        (splitPath (path ++ tail).toList).2 := by
  rw [List.all_eq_true] at legal
  have stop : ∀ c, (path ++ tail).toList.head? = some c → (!endsAuthority c) = false := by
    obtain ⟨cs, hcs⟩ := List.head?_eq_some_iff.mp rooted
    rw [String.toList_append, hcs]
    rintro c ⟨⟩
    decide
  rw [ofParts, String.toList_append, takeWhile_append_of_stop legal stop,
    dropWhile_append_of_stop legal stop, String.ofList_toList]

end Target

/-- **How a target is read**: as the path with its site and its query, without the fragment. -/
theorem Spelling.ofText_text (w : Spelling) {path : String} (plain : IsPlainPath path) :
    Target.ofText (w.text path) = w.target path := by
  have split := Target.splitPath_text plain w.legalQuery w.fragment
  obtain ⟨cs, hcs⟩ := List.head?_eq_some_iff.mp plain.rooted
  unfold text target
  cases w.site with
  | none =>
    -- The text begins with the path, and so with a slash.
    rw [Option.elim_none, Option.elim_none, String.empty_append, Target.ofText_of_rooted, split]
    rw [String.toList_append, hcs]
    rfl
  | some site =>
    -- A path that is not empty stays as it is.
    have path_ne : path ≠ "" := by
      rintro rfl
      cases hcs
    rw [Option.elim_some, Option.elim_some, Site.text, String.append_assoc,
      Target.ofText_of_scheme site.legalScheme,
      Target.ofParts_text site.legalAuthority plain.rooted, split, if_neg path_ne,
      String.ofList_toList]

/-! ## Answers that differ in their location at most -/

/-- Whether two responses have the same status, the same body and the same values for every name
other than that of the location. -/
structure Response.SameButLocation (r s : Response) : Prop where
  status : r.status = s.status
  body : r.body = s.body
  values : ∀ name, name ≠ .location → r.headers.values name = s.headers.values name

/-- Whether two requests are both broken off, or both get a reply with the same records and with
responses that differ in their location at most. -/
inductive SameAnswerButLocation : Except Fault Reply → Except Fault Reply → Prop
  | broken (fault : Fault) : SameAnswerButLocation (.error fault) (.error fault)
  | replied {a b : Reply} (response : a.response.SameButLocation b.response) (log : a.log = b.log) :
    SameAnswerButLocation (.ok a) (.ok b)

theorem Response.SameButLocation.refl (r : Response) : r.SameButLocation r :=
  ⟨rfl, rfl, fun _ _ => rfl⟩

/-! ## The file service -/

section Service

variable {q₁ q₂ : Request}

/-- What is sent of a file hangs on the method and the headers of the request alone. -/
theorem respondFrom_congr (method : q₁.method = q₂.method) (headers : q₁.headers = q₂.headers)
    (tree : FileTree) (cs : List String) : respondFrom tree q₁ cs = respondFrom tree q₂ cs := by
  obtain ⟨method₁, target₁, headers₁⟩ := q₁
  obtain ⟨method₂, target₂, headers₂⟩ := q₂
  obtain rfl : method₁ = method₂ := method
  obtain rfl : headers₁ = headers₂ := headers
  -- The targets differ, and they are not looked at.
  rfl

/-- Redirections differ in their location alone, unless only one of the targets has a path. -/
theorem redirectResponse_sameButLocation {target₁ target₂ : Target}
    (slash : target₁.withSlash?.isSome = target₂.withSlash?.isSome) :
    (redirectResponse target₁).SameButLocation (redirectResponse target₂) := by
  unfold redirectResponse
  cases url₁ : target₁.withSlash? with
  | none =>
    have none₂ : target₂.withSlash? = none := by simpa [url₁] using slash.symm
    rw [none₂]
    exact .refl _
  | some text₁ =>
    obtain ⟨text₂, url₂⟩ : ∃ text₂, target₂.withSlash? = some text₂ := by
      rw [← Option.isSome_iff_exists, ← slash, url₁]
      rfl
    rw [url₂]
    refine ⟨rfl, rfl, fun name other => ?_⟩
    have other' : ¬ HeaderName.location = name := fun same => other same.symm
    simp [Headers.values, Headers.ofList, other']

/-- **The file service reads method, path and headers of a request**; the target as a whole goes
into the location of a redirection and into nothing else. -/
theorem serveFiles_sameButLocation (method : q₁.method = q₂.method) (path : q₁.path = q₂.path)
    (headers : q₁.headers = q₂.headers)
    (slash : q₁.target.withSlash?.isSome = q₂.target.withSlash?.isSome) (tree : FileTree)
    (root : List String) : (serveFiles tree root q₁).SameButLocation (serveFiles tree root q₂) := by
  unfold serveFiles
  rw [method, path]
  split
  · -- a method that is not admitted
    exact .refl _
  · split
    · -- a path that names nothing
      exact .refl _
    · unfold respondAt
      rw [path]
      split
      · split
        · -- a directory, by its page
          rw [respondFrom_congr method headers]
          exact .refl _
        · -- a directory without a slash: here the target as a whole is read
          exact redirectResponse_sameButLocation slash
      · -- a file, or nothing
        rw [respondFrom_congr method headers]
        exact .refl _

end Service

/-! ## The layers of a policy -/

namespace Response.SameButLocation

variable {r s : Response} (same : r.SameButLocation s)

include same

theorem withType (type? : Option String) :
    (r.withType type?).SameButLocation (s.withType type?) where
  status := by simp [same.status]
  body := by simp [same.body]
  values name other := by rw [values_withType, values_withType, same.values name other]

theorem setFields (fields : List Field) :
    (r.setFields fields).SameButLocation (s.setFields fields) where
  status := same.status
  body := same.body
  values name other := by rw [values_setFields, values_setFields, same.values name other]

theorem finish {q₁ q₂ : Request} (method : q₁.method = q₂.method) (path : q₁.path = q₂.path) :
    (finish q₁ r).SameButLocation (finish q₂ s) where
  status := by simp [same.status]
  body := by rw [body_finish, body_finish, method, path, same.status, same.body]
  values name other := by
    rw [values_finish, values_finish, method, path, same.status, same.body, same.values name other]

end Response.SameButLocation

section Layers

variable {p : Policy} {q₁ q₂ : Request}

theorem Policy.forcedType?_congr (path : q₁.path = q₂.path) :
    p.forcedType? q₁ = p.forcedType? q₂ := by
  funext status
  rw [Policy.forcedType?, Policy.forcedType?, path]

/-- All stages keep responses alike. -/
theorem Response.SameButLocation.dressed {r s : Response} (same : r.SameButLocation s)
    (method : q₁.method = q₂.method) (path : q₁.path = q₂.path) (fields : List Field) :
    (r.dressed p fields q₁).SameButLocation (s.dressed p fields q₂) := by
  have typed : (r.typed p q₁).SameButLocation (s.typed p q₂) := by
    rw [Response.typed, Response.typed, Policy.forcedType?_congr path, same.status]
    exact same.withType _
  exact (typed.setFields fields).finish method path

/-- A type that is no plain value breaks a request off. -/
theorem Policy.serve_of_not_plain {fields : List Field} {inner : Handler} {seen : Reply}
    (hseen : p.innerReply inner q₁ = .ok seen)
    (odd : ¬ ∀ type, p.forcedType? q₁ seen.response.status = some type →
      isPlainValue type = true) :
    p.serve fields inner q₁ = .error .notPlain := by
  cases served : p.serve fields inner q₁ with
  | error fault =>
    cases fault
    rfl
  | ok reply =>
    obtain ⟨seen', hseen', plain, -⟩ := Policy.serve_eq_ok_iff.mp served
    obtain rfl := Except.ok.inj (hseen.symm.trans hseen')
    exact absurd plain odd

/-- **The layers keep answers alike**: handlers whose responses differ in their location at most
still do so behind the layers, and the same requests are broken off. -/
theorem Policy.serve_sameButLocation {inner₁ inner₂ : Request → Response}
    (method : q₁.method = q₂.method) (path : q₁.path = q₂.path)
    (same : (inner₁ q₁).SameButLocation (inner₂ q₂)) (fields : List Field) :
    SameAnswerButLocation (p.serve fields (.ofFunction inner₁) q₁)
      (p.serve fields (.ofFunction inner₂) q₂) := by
  -- Both requests are preflights for the policy or neither is, so what the layers see is alike too.
  have seen : ∃ r s : Response, r.SameButLocation s ∧
      p.innerReply (.ofFunction inner₁) q₁ = .ok ⟨r, []⟩ ∧
      p.innerReply (.ofFunction inner₂) q₂ = .ok ⟨s, []⟩ := by
    unfold Policy.innerReply Policy.answers
    rw [method]
    split
    · exact ⟨_, _, .refl _, rfl, rfl⟩
    · exact ⟨_, _, same, rfl, rfl⟩
  obtain ⟨r, s, alike, seen₁, seen₂⟩ := seen
  have forced : p.forcedType? q₁ r.status = p.forcedType? q₂ s.status := by
    rw [Policy.forcedType?_congr path, alike.status]
  by_cases plain : ∀ type, p.forcedType? q₁ r.status = some type → isPlainValue type = true
  · have plain' : ∀ type, p.forcedType? q₂ s.status = some type → isPlainValue type = true := by
      rwa [← forced]
    rw [Policy.serve_eq_ok_iff.mpr ⟨_, seen₁, plain, rfl⟩,
      Policy.serve_eq_ok_iff.mpr ⟨_, seen₂, plain', rfl⟩]
    apply SameAnswerButLocation.replied
    · exact alike.dressed method path fields
    · simp only [requestRecord, method, path, alike.status]
  · have odd : ¬ ∀ type, p.forcedType? q₂ s.status = some type → isPlainValue type = true := by
      rwa [← forced]
    rw [Policy.serve_of_not_plain seen₁ plain, Policy.serve_of_not_plain seen₂ odd]
    exact .broken _

end Layers

/-! ## Routers -/

/-- Requests with the same method, path and headers get the same answer but for the location, if
their targets have a path or have none. -/
theorem Router.handle_sameButLocation (r : Router) (tree : FileTree) {q₁ q₂ : Request}
    (method : q₁.method = q₂.method) (path : q₁.path = q₂.path) (headers : q₁.headers = q₂.headers)
    (slash : q₁.target.withSlash?.isSome = q₂.target.withSlash?.isSome) :
    SameAnswerButLocation (r.handle tree q₁) (r.handle tree q₂) :=
  Policy.serve_sameButLocation method path
    (serveFiles_sameButLocation method path headers slash tree r.root) r.fields

/-- **Only the path of a target counts.** Let a path be rooted and hold neither a question mark nor
a hash sign. Whatever sites, queries and fragments stand around it, requests for it with the same
method and the same headers get the same answer: the same status, body and records and the same
values for every name but that of the location, or both are broken off. The path that the policy
matches its suffixes against is the path itself, so nothing that stands around it forces a type or
keeps one from being forced. -/
theorem Router.answers_by_path (r : Router) {path : String} (plain : IsPlainPath path)
    (w₁ w₂ : Spelling) (tree : FileTree) (method : Method) (headers : Headers) :
    SameAnswerButLocation (r.handle tree ⟨method, .ofText (w₁.text path), headers⟩)
      (r.handle tree ⟨method, .ofText (w₂.text path), headers⟩) ∧
    ∀ status, r.policy.forcedType? ⟨method, .ofText (w₁.text path), headers⟩ status =
      if status.isTyped then r.policy.contentTypeFor? path else none := by
  rw [w₁.ofText_text plain, w₂.ofText_text plain]
  have samePath : (w₁.target path).path = (w₂.target path).path :=
    w₁.path_target.trans w₂.path_target.symm
  have slash : (w₁.target path).withSlash?.isSome = (w₂.target path).withSlash?.isSome :=
    w₁.isSome_withSlash?_target.trans w₂.isSome_withSlash?_target.symm
  constructor
  · exact Router.handle_sameButLocation r tree rfl samePath rfl slash
  · intro status
    rw [Policy.forcedType?, Request.path, w₁.path_target]

/-- A path alone. -/
def bareSpelling : Spelling := ⟨none, none, none, by simp⟩

/-- A path on another site, with a query and a fragment that end like scripts. -/
def busySpelling : Spelling where
  site := some ⟨"HTTP", "cdn.js:80", by decide, by decide⟩
  query := some "a/b?c.js"
  fragment := some "d?e#f.js"
  legalQuery := by decide

/-- A policy for scripts and pages. -/
def scriptPolicy : Policy := ⟨[], [⟨".js", "text/plain"⟩, ⟨".html", "text/html"⟩], true⟩

/-- A tree with a directory of scripts. -/
def scriptTree : FileTree := FileTree.empty.write ["js", "a.js"] (.file [49] 0)

/-- The directory of scripts is redirected under both spellings, to another location under each. A
page gets the type of pages although the site, the query and the fragment end like scripts. -/
theorem Router.answers_by_path_scripts :
    busySpelling.text "/js" = "HTTP://cdn.js:80/js?a/b?c.js#d?e#f.js" ∧
    Router.build [] scriptPolicy = .ok ⟨[], scriptPolicy, []⟩ ∧
    (∃ a b, (Router.mk [] scriptPolicy []).handle scriptTree
          ⟨.get, .ofText (bareSpelling.text "/js"), .empty⟩ = .ok a ∧
        (Router.mk [] scriptPolicy []).handle scriptTree
          ⟨.get, .ofText (busySpelling.text "/js"), .empty⟩ = .ok b ∧
        a.response.SameButLocation b.response ∧ a.log = b.log ∧
        a.response.headers.values .location = ["/js/"] ∧
        b.response.headers.values .location = ["http://cdn.js:80/js/?a/b?c.js"]) ∧
    scriptPolicy.forcedType? ⟨.get, .ofText (busySpelling.text "/a.html"), .empty⟩ .ok =
      some "text/html" := by
  have scripts : IsPlainPath "/js" := ⟨by decide, by decide, by decide⟩
  have page : IsPlainPath "/a.html" := ⟨by decide, by decide, by decide⟩
  refine ⟨by decide, by decide, ?_, ?_⟩
  · have same := (Router.answers_by_path ⟨[], scriptPolicy, []⟩ scripts bareSpelling busySpelling
      scriptTree .get .empty).1
    have first : (Router.mk [] scriptPolicy []).handle scriptTree
      ⟨.get, .ofText (bareSpelling.text "/js"), .empty⟩ = .ok _ := rfl
    have second : (Router.mk [] scriptPolicy []).handle scriptTree
      ⟨.get, .ofText (busySpelling.text "/js"), .empty⟩ = .ok _ := rfl
    rw [first, second] at same
    cases same with
    | replied response log => exact ⟨_, _, first, second, response, log, by decide, by decide⟩
  · have forced := (Router.answers_by_path ⟨[], scriptPolicy, []⟩ page busySpelling bareSpelling
      .empty .get .empty).2 .ok
    exact forced.trans (by decide)

end PreviewServer
