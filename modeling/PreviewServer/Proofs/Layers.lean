import Mathlib.Data.List.Induction
import PreviewServer.Proofs.Validation
import PreviewServer.Router

/-!
# What the layers of a policy do

A response passes three stages on its way out: its type is forced, the fixed headers are set, and
it is finished. Each stage is described by what it does to status, body and the values of every
header name. A request is replied to exactly if the inner handler replies and the type to force is
a plain value.

## Main definitions

* `Response.withType`: a response with its type replaced, if there is one to force
* `Response.typed`: a response after the first stage
* `Response.dressed`: a response after all stages

## Main results

* `Response.values_setFields`: fixed headers replace all values of their names, the last one wins
* `values_finish`, `body_finish`: finishing adds a length and takes a body away, at most
* `Policy.innerReply_of_answers`, `Policy.innerReply_of_not_answers`: the reply that the layers see
* `overrideTypes_eq_ok_iff`, `Policy.wrap_eq_ok_iff`, `Policy.serve_eq_ok_iff`: when a request is
  replied to, and with what, by the override layer, by all layers and after the last step
* `Policy.serve_congr`: what a reply depends on
* `Response.mem_fields_dressed`: where the fields of a response come from
-/

namespace PreviewServer

/-! ## The reply that the layers see -/

theorem Method.eq_iff_token {m n : Method} : m = n ↔ m.token = n.token := by
  cases m
  cases n
  simp

section Seen

variable {p : Policy} {q : Request}

/-- A policy answers the requests with the method `OPTIONS`, if it answers any. -/
theorem Policy.answers_iff :
    p.answers q = true ↔ p.answerPreflight = true ∧ q.method.token = "OPTIONS" := by
  rw [Policy.answers, Bool.and_eq_true, decide_eq_true_eq, Method.eq_iff_token]
  rfl

/-- The inner handler has no say in the answer to a preflight. -/
theorem Policy.innerReply_of_answers
    (answered : p.answerPreflight = true ∧ q.method.token = "OPTIONS") (inner : Handler) :
    p.innerReply inner q = .ok ⟨.bare .ok, []⟩ :=
  if_pos (Policy.answers_iff.mpr answered)

/-- The inner handler replies to every other request. -/
theorem Policy.innerReply_of_not_answers
    (handedOn : ¬ (p.answerPreflight = true ∧ q.method.token = "OPTIONS")) (inner : Handler) :
    p.innerReply inner q = inner q :=
  if_neg (mt Policy.answers_iff.mp handedOn)

theorem Policy.innerReply_congr {p₁ p₂ : Policy}
    (answer : p₁.answerPreflight = p₂.answerPreflight) (inner : Handler) (q : Request) :
    p₁.innerReply inner q = p₂.innerReply inner q := by
  rw [Policy.innerReply, Policy.innerReply, Policy.answers, Policy.answers, answer]

end Seen

/-! ## Forcing the type -/

/-- A response with its type replaced, if there is one to force. -/
def Response.withType (r : Response) (type? : Option String) : Response :=
  type?.elim r fun type => { r with headers := r.headers.set .contentType type }

section WithType

variable (r : Response) (type? : Option String)

@[simp] theorem Response.status_withType : (r.withType type?).status = r.status := by
  cases type? <;> rfl

@[simp] theorem Response.body_withType : (r.withType type?).body = r.body := by
  cases type? <;> rfl

theorem Response.values_withType (name : HeaderName) :
    (r.withType type?).headers.values name =
      if name = .contentType then type?.elim (r.headers.values name) ([·])
      else r.headers.values name := by
  cases type? with
  | none => simp [Response.withType]
  | some type => simp [Response.withType]

end WithType

/-- A response to a request after its type was forced by a policy. -/
def Response.typed (r : Response) (p : Policy) (q : Request) : Response :=
  r.withType (p.forcedType? q r.status)

/-- Forcing the type of a response succeeds exactly if the type is a plain value. -/
theorem Policy.forceType_eq_ok_iff {p : Policy} {q : Request} {r r' : Response} :
    p.forceType q r = .ok r' ↔
      (∀ type, p.forcedType? q r.status = some type → isPlainValue type = true) ∧
        r' = r.typed p q := by
  unfold Policy.forceType Response.typed
  cases p.forcedType? q r.status with
  | none =>
    simp only [Response.withType, Option.elim_none, Except.ok.injEq, reduceCtorEq, false_implies,
      implies_true, true_and]
    exact eq_comm
  | some type =>
    by_cases plain : isPlainValue type = true
    · simp only [Response.withType, Option.elim_some, plain, if_true, Except.ok.injEq,
        Option.some.injEq, forall_eq', true_and]
      exact eq_comm
    · simp [plain]

/-! ## Fixed headers -/

theorem Headers.mem_fields_iff {h : Headers} {f : Field} :
    f ∈ h.fields ↔ f.value ∈ h.values f.name := by
  simp only [Headers.values, List.mem_map, List.mem_filter, decide_eq_true_eq]
  constructor
  · intro hf
    exact ⟨f, ⟨hf, rfl⟩, rfl⟩
  · rintro ⟨⟨name, value⟩, ⟨hf, rfl⟩, rfl⟩
    exact hf

theorem Headers.values_ofList_append (fields more : List Field) (name : HeaderName) :
    (Headers.ofList (fields ++ more)).values name =
      (Headers.ofList fields).values name ++ (Headers.ofList more).values name := by
  simp [Headers.values, Headers.ofList]

/-- Setting fields one after the other leaves each name with the last value set for it. -/
theorem Headers.values_foldl_set (h : Headers) (fields : List Field) (name : HeaderName) :
    (fields.foldl (fun h f => h.set f.name f.value) h).values name =
      ((Headers.ofList fields).values name).getLast?.elim (h.values name) ([·]) := by
  -- From the back: the last field decides, unless it is for another name.
  induction fields using List.reverseRecOn with
  | nil => rfl
  | append_singleton fields f ih =>
    rw [List.foldl_append, List.foldl_cons, List.foldl_nil, Headers.values_set, ih,
      Headers.values_ofList_append]
    by_cases hn : name = f.name
    · simp [Headers.values, Headers.ofList, hn]
    · have hn' : ¬ f.name = name := fun e => hn e.symm
      simp [Headers.values, Headers.ofList, hn, hn']

section SetFields

variable (r : Response) (fields : List Field)

@[simp] theorem Response.status_setFields : (r.setFields fields).status = r.status := rfl

@[simp] theorem Response.body_setFields : (r.setFields fields).body = r.body := rfl

theorem Response.values_setFields (name : HeaderName) :
    (r.setFields fields).headers.values name =
      ((Headers.ofList fields).values name).getLast?.elim (r.headers.values name) ([·]) :=
  Headers.values_foldl_set r.headers fields name

end SetFields

/-! ## Finishing -/

section Finish

variable (r : Response)

@[simp] theorem Response.status_withLength : r.withLength.status = r.status := by
  unfold Response.withLength
  split <;> rfl

theorem Response.body_withLength : r.withLength.body = r.body := by
  unfold Response.withLength
  split <;> rfl

theorem Response.values_withLength (name : HeaderName) :
    r.withLength.headers.values name =
      if name = .contentLength ∧ r.headers.values name = [] then [decimal r.body.length]
      else r.headers.values name := by
  unfold Response.withLength Headers.get?
  by_cases hn : name = .contentLength
  · subst hn
    cases hv : r.headers.values .contentLength with
    | nil => simp
    | cons value values => simp [hv]
  · split <;> simp [hn]

variable (q : Request)

@[simp] theorem status_finish : (finish q r).status = r.status := by
  unfold finish
  split
  · rfl
  · split
    · rfl
    · split <;> simp [Response.withoutBody]

/-- **Finishing changes no values**, except that a request without a rooted path gets a length
where there is none, unless it opens a tunnel. -/
theorem values_finish (name : HeaderName) :
    (finish q r).headers.values name =
      if (name = .contentLength ∧ r.headers.values name = []) ∧
          Target.isRooted q.path = false ∧ ¬ (q.method = .connect ∧ r.status.isSuccess = true) then
        [decimal r.body.length]
      else r.headers.values name := by
  unfold finish
  by_cases tunnel : q.method = .connect ∧ r.status.isSuccess = true
  · simp [tunnel, Response.withoutBody]
  · by_cases rooted : Target.isRooted q.path = true
    · simp [tunnel, rooted]
    · -- With or without its body, the response gets the same headers.
      have bare : (if q.method = .head then r.withLength.withoutBody else r.withLength).headers =
          r.withLength.headers := by split <;> rfl
      rw [if_neg tunnel, if_neg rooted, bare, Response.values_withLength]
      simp [tunnel, rooted]

/-- **Finishing takes a body away or leaves it**: a tunnel has none, nor has the answer to a request
for headers only whose path is not rooted. -/
theorem body_finish :
    (finish q r).body =
      if (q.method = .connect ∧ r.status.isSuccess = true) ∨
          (Target.isRooted q.path = false ∧ q.method = .head) then []
      else r.body := by
  unfold finish
  by_cases tunnel : q.method = .connect ∧ r.status.isSuccess = true
  · simp [tunnel, Response.withoutBody]
  · by_cases rooted : Target.isRooted q.path = true
    · simp [tunnel, rooted]
    · by_cases head : q.method = .head
      · simp [rooted, head, Method.head, Method.connect, Response.withoutBody]
      · simp [tunnel, rooted, head, Response.body_withLength]

theorem body_finish_of_body_eq_nil (empty : r.body = []) : (finish q r).body = [] := by
  rw [body_finish, empty, ite_self]

end Finish

/-! ## All stages -/

/-- A response to a request after all stages: its type forced by a policy, fields set on it, and
finished. -/
def Response.dressed (r : Response) (p : Policy) (fields : List Field) (q : Request) : Response :=
  finish q ((r.typed p q).setFields fields)

/-- No stage touches the status. -/
@[simp] theorem Response.status_dressed (r : Response) (p : Policy) (fields : List Field)
    (q : Request) : (r.dressed p fields q).status = r.status := by
  simp [Response.dressed, Response.typed]

section Stages

variable {p : Policy} {fields : List Field} {inner : Handler} {q : Request} {reply : Reply}

/-- **When the override layer replies, and with what.** -/
theorem overrideTypes_eq_ok_iff :
    overrideTypes p inner q = .ok reply ↔
      ∃ seen, p.innerReply inner q = .ok seen ∧
        (∀ type, p.forcedType? q seen.response.status = some type → isPlainValue type = true) ∧
        reply = ⟨seen.response.typed p q, seen.log ++ [requestRecord q seen.response.status]⟩ := by
  unfold overrideTypes
  simp only [bind_eq_ok_iff, pure_eq_ok_iff, Policy.forceType_eq_ok_iff]
  constructor
  · rintro ⟨seen, hseen, _, ⟨plain, rfl⟩, rfl⟩
    exact ⟨seen, hseen, plain, by simp [Response.typed]⟩
  · rintro ⟨seen, hseen, plain, rfl⟩
    exact ⟨seen, hseen, _, ⟨plain, rfl⟩, by simp [Response.typed]⟩

/-- **When the layers reply, and with what**: as the override layer does, with the fixed headers set
on its response. -/
theorem Policy.wrap_eq_ok_iff :
    p.wrap fields inner q = .ok reply ↔
      ∃ seen, p.innerReply inner q = .ok seen ∧
        (∀ type, p.forcedType? q seen.response.status = some type → isPlainValue type = true) ∧
        reply = ⟨(seen.response.typed p q).setFields fields,
          seen.log ++ [requestRecord q seen.response.status]⟩ := by
  unfold Policy.wrap setHeaders
  simp only [bind_eq_ok_iff, pure_eq_ok_iff, overrideTypes_eq_ok_iff]
  constructor
  · rintro ⟨_, ⟨seen, hseen, plain, rfl⟩, rfl⟩
    exact ⟨seen, hseen, plain, rfl⟩
  · rintro ⟨seen, hseen, plain, rfl⟩
    exact ⟨_, ⟨seen, hseen, plain, rfl⟩, rfl⟩

/-- **When a request is replied to, and with what**: as the layers do, with the response
finished. -/
theorem Policy.serve_eq_ok_iff :
    p.serve fields inner q = .ok reply ↔
      ∃ seen, p.innerReply inner q = .ok seen ∧
        (∀ type, p.forcedType? q seen.response.status = some type → isPlainValue type = true) ∧
        reply = ⟨seen.response.dressed p fields q,
          seen.log ++ [requestRecord q seen.response.status]⟩ := by
  unfold Policy.serve
  simp only [bind_eq_ok_iff, pure_eq_ok_iff, Policy.wrap_eq_ok_iff]
  constructor
  · rintro ⟨_, ⟨seen, hseen, plain, rfl⟩, rfl⟩
    exact ⟨seen, hseen, plain, rfl⟩
  · rintro ⟨seen, hseen, plain, rfl⟩
    exact ⟨_, ⟨seen, hseen, plain, rfl⟩, rfl⟩

section Congruence

variable {p₁ p₂ : Policy} {inner₁ inner₂ : Handler} {q₁ q₂ : Request}

/-- What the override layer depends on: the type for the path, the method and the path of the
request, and the reply of the inner handler. -/
theorem overrideTypes_congr_seen
    (type : p₁.contentTypeFor? q₁.path = p₂.contentTypeFor? q₂.path)
    (method : q₁.method = q₂.method) (path : q₁.path = q₂.path)
    (seen : p₁.innerReply inner₁ q₁ = p₂.innerReply inner₂ q₂) :
    overrideTypes p₁ inner₁ q₁ = overrideTypes p₂ inner₂ q₂ := by
  have force : p₁.forceType q₁ = p₂.forceType q₂ := by
    funext r
    simp only [Policy.forceType, Policy.forcedType?, type]
  have record : requestRecord q₁ = requestRecord q₂ := by
    funext status
    simp only [requestRecord, method, path]
  unfold overrideTypes
  rw [seen, force, record]

/-- **What the stages depend on**: of a policy they read the types, of a request its method and
its path, and of the inner handler its reply. -/
theorem Policy.serve_congr (types : p₁.contentTypes = p₂.contentTypes)
    (method : q₁.method = q₂.method) (path : q₁.path = q₂.path)
    (seen : p₁.innerReply inner₁ q₁ = p₂.innerReply inner₂ q₂) (fields : List Field) :
    p₁.serve fields inner₁ q₁ = p₂.serve fields inner₂ q₂ := by
  have type : p₁.contentTypeFor? q₁.path = p₂.contentTypeFor? q₂.path := by
    rw [Policy.contentTypeFor?, Policy.contentTypeFor?, types, path]
  have last : finish q₁ = finish q₂ := by
    funext r
    simp only [finish, method, path]
  simp only [Policy.serve, Policy.wrap, setHeaders,
    overrideTypes_congr_seen type method path seen, last]

end Congruence

/-- The values of a name after all stages, where finishing has nothing to add: the name is fixed, or
it is not that of lengths. -/
theorem Response.values_dressed (accepted : p.validate = .ok fields) (r : Response) (q : Request)
    (name : HeaderName) (settled : name ≠ .contentLength ∨ p.fixedValues name ≠ []) :
    (r.dressed p fields q).headers.values name =
      (p.fixedValues name).getLast?.elim ((r.typed p q).headers.values name) ([·]) := by
  have set := Response.values_setFields (r.typed p q) fields name
  rw [Policy.values_of_validate accepted] at set
  rw [Response.dressed, values_finish, if_neg, set]
  rintro ⟨⟨rfl, absent⟩, -⟩
  rcases settled with other | fixed
  · exact other rfl
  · -- A fixed length is there before the response is finished.
    rw [set, List.getLast?_eq_some_getLast fixed] at absent
    cases absent

/-- **Where the fields of a response come from**: from the fixed headers, from the rules, from its
length where the path is not rooted, or from the response that entered the stages. -/
theorem Response.mem_fields_dressed (accepted : p.validate = .ok fields) {r : Response}
    {q : Request} {f : Field} (hf : f ∈ (r.dressed p fields q).headers.fields) :
    (∃ h ∈ p.headers, h.isFor f.name = true ∧ h.value = f.value) ∨
      (f.name = .contentType ∧ p.forcedType? q r.status = some f.value) ∨
      (f.name = .contentLength ∧ f.value = decimal r.body.length ∧
        Target.isRooted q.path = false) ∨
      f ∈ r.headers.fields := by
  rw [Headers.mem_fields_iff, Response.dressed, values_finish] at hf
  split at hf
  · -- the length that finishing adds
    rename_i added
    refine .inr (.inr (.inl ⟨added.1.1, ?_, added.2.1⟩))
    simpa [Response.typed] using hf
  · rw [Response.values_setFields, Policy.values_of_validate accepted] at hf
    cases last : (p.fixedValues f.name).getLast? with
    | some value =>
      -- a fixed header: the last one for the name
      have fixed : f.value ∈ p.fixedValues f.name := by
        rw [last, Option.elim_some, List.mem_singleton] at hf
        exact hf ▸ List.mem_of_getLast? last
      exact .inl (Policy.mem_fixedValues.mp fixed)
    | none =>
      rw [last, Option.elim_none, Response.typed, Response.values_withType] at hf
      cases type : p.forcedType? q r.status with
      | none =>
        rw [type, Option.elim_none, ite_self] at hf
        exact .inr (.inr (.inr (Headers.mem_fields_iff.mpr hf)))
      | some type' =>
        rw [type, Option.elim_some] at hf
        split at hf
        · -- the type that a rule forces
          rename_i named
          rw [List.mem_singleton] at hf
          exact .inr (.inl ⟨named, by rw [hf]⟩)
        · exact .inr (.inr (.inr (Headers.mem_fields_iff.mpr hf)))

end Stages

end PreviewServer
