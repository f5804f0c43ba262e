import PreviewServer.Proofs.Layers
import PreviewServer.Proofs.Offenders
import PreviewServer.Proofs.Session

/-!
# The headers of responses

Three sources compete for the headers of a response: the inner handler, the rules that force a type
by the path, and the fixed headers. Fixed headers win over everything, and among them the last one
of a name; the first rule for a path wins over the inner handler where the status lets it.

## Main definitions

* `Policy.IsFirstRule`: the first rule whose suffix ends a path

## Main results

* `Policy.values_serve_of_fixed`: a name with fixed values has the last of them, once
* `Response.values_contentType_dressed`: the types of a response without a fixed type
* `Policy.contentTypeFor?_eq_some_iff`: a path gets the type of its first rule
* `Router.values_fixedHeader`: fixed headers in the replies of a router
* `Router.values_contentType`: the types of a response, by precedence
-/

namespace PreviewServer

section Serve

variable {p : Policy} {fields : List Field} {inner : Handler} {q : Request} {reply : Reply}

/-- A name with fixed values has the last of them in every response, and no other. -/
theorem Policy.values_serve_of_fixed (accepted : p.validate = .ok fields)
    (served : p.serve fields inner q = .ok reply) {name : HeaderName} {value : String}
    (fixed : (p.fixedValues name).getLast? = some value) :
    reply.response.headers.values name = [value] := by
  obtain ⟨seen, -, -, rfl⟩ := Policy.serve_eq_ok_iff.mp served
  have some_value : p.fixedValues name ≠ [] := by
    intro none
    simp [none] at fixed
  rw [Response.values_dressed accepted _ _ _ (Or.inr some_value), fixed]
  rfl

/-- Without a fixed type a response has the type that is forced, or else the types that it had
before. -/
theorem Response.values_contentType_dressed (accepted : p.validate = .ok fields)
    (free : p.fixedValues .contentType = []) (r : Response) (q : Request) :
    (r.dressed p fields q).headers.values .contentType =
      (p.forcedType? q r.status).elim (r.headers.values .contentType) ([·]) := by
  rw [Response.values_dressed accepted _ _ _ (Or.inl (by decide)), free, Response.typed,
    Response.values_withType]
  rfl

end Serve

/-! ## Rules and statuses -/

theorem Status.isTyped_iff {s : Status} :
    s.isTyped = true ↔ (200 ≤ s.code ∧ s.code ≤ 299) ∨ s.code = 304 := by
  have unmodified : s = .notModified ↔ s.code = 304 := by
    cases s
    simp [Status.notModified]
  simp [Status.isTyped, Status.isSuccess, unmodified]

theorem TypeRule.matches_iff {rule : TypeRule} {path : String} :
    rule.matches path = true ↔ utf8 rule.suffix <:+ utf8 path := by
  simp [TypeRule.matches]

/-- Whether a rule is the first of a policy whose suffix ends a path. -/
def Policy.IsFirstRule (p : Policy) (path : String) (rule : TypeRule) : Prop :=
  IsFirst (fun rule => utf8 rule.suffix <:+ utf8 path) p.contentTypes rule

section FirstRule

variable {p : Policy} {path : String} {rule : TypeRule} {type : String}

theorem Policy.find?_eq_some_iff :
    p.contentTypes.find? (·.matches path) = some rule ↔ p.IsFirstRule path rule := by
  simp only [List.find?_eq_some_iff_append, Policy.IsFirstRule, IsFirst, TypeRule.matches_iff,
    Bool.not_eq_true', ← Bool.not_eq_true]

/-- A path gets the type of its first rule, and no type without one. -/
theorem Policy.contentTypeFor?_eq_some_iff :
    p.contentTypeFor? path = some type ↔ ∃ rule, p.IsFirstRule path rule ∧ rule.type = type := by
  unfold Policy.contentTypeFor?
  simp only [Option.map_eq_some_iff, Policy.find?_eq_some_iff]

/-- Policies with the same first rule for a path have the same type for it. -/
theorem Policy.contentTypeFor?_congr {p' : Policy}
    (first : ∀ rule, p'.IsFirstRule path rule ↔ p.IsFirstRule path rule) :
    p'.contentTypeFor? path = p.contentTypeFor? path := by
  ext type
  simp only [Policy.contentTypeFor?_eq_some_iff, first]

/-- The type that is forced is that of the first rule, where the status lets it. -/
theorem Policy.forcedType?_eq_some_iff {q : Request} {status : Status} :
    p.forcedType? q status = some type ↔
      status.isTyped = true ∧ ∃ rule, p.IsFirstRule q.path rule ∧ rule.type = type := by
  unfold Policy.forcedType?
  rw [Option.ite_none_right_eq_some, Policy.contentTypeFor?_eq_some_iff]

end FirstRule

/-! ## Routers -/

section Router

variable {root : List String} {p : Policy} {r : Router}

/-- **Every fixed header reaches every response of a router**: its name, in any case, has exactly
one value, the last that the policy fixes for it, whatever the file service gave. -/
theorem Router.values_fixedHeader (built : Router.build root p = .ok r) {tree : FileTree}
    {q : Request} {reply : Reply} (replied : r.handle tree q = .ok reply) {h : FixedHeader}
    (listed : h ∈ p.headers) :
    ∃ name : HeaderName, name.text = asciiLower h.name ∧
      ∃ value, (p.fixedValues name).getLast? = some value ∧
        reply.response.headers.values name = [value] := by
  obtain ⟨fields, accepted, rfl⟩ := Router.build_eq_ok_iff.mp built
  obtain ⟨name, named⟩ := Policy.exists_name_of_validate accepted listed
  have fixed : p.fixedValues name ≠ [] :=
    List.ne_nil_of_mem (Policy.mem_fixedValues.mpr ⟨h, listed, named, rfl⟩)
  have last := List.getLast?_eq_some_getLast fixed
  exact ⟨name, (of_decide_eq_true named).symm, _, last,
    Policy.values_serve_of_fixed accepted replied last⟩

/-- A policy that fixes `allow` twice, in two spellings. -/
def allowTwice : Policy := ⟨[⟨"Allow", "GET"⟩, ⟨"ALLOW", "none"⟩], [], true⟩

/-- A request for a method that the file service does not admit. -/
def postRequest : Request := ⟨⟨"POST", by decide⟩, .origin "/" none, .empty⟩

/-- The file service gives `allow` a value of its own, and the last fixed one takes its place. -/
theorem Router.values_allowTwice :
    Router.build [] allowTwice = .ok ⟨[], allowTwice, [⟨.allow, "GET"⟩, ⟨.allow, "none"⟩]⟩ ∧
      ∃ reply, (Router.mk [] allowTwice [⟨.allow, "GET"⟩, ⟨.allow, "none"⟩]).handle .empty
          postRequest = .ok reply ∧
        reply.response.headers.values .allow = ["none"] := by
  have built : Router.build [] allowTwice =
      .ok ⟨[], allowTwice, [⟨.allow, "GET"⟩, ⟨.allow, "none"⟩]⟩ := by decide
  have listed : (⟨"Allow", "GET"⟩ : FixedHeader) ∈ allowTwice.headers := by decide
  refine ⟨built, _, rfl, ?_⟩
  obtain ⟨name, named, value, last, values⟩ :=
    @Router.values_fixedHeader _ _ _ built .empty postRequest _ rfl _ listed
  obtain rfl : name = .allow := HeaderName.ext_iff_text.mpr (named.trans (by decide))
  obtain rfl : "none" = value := Option.some.inj last
  exact values

/-- **The types of a response**, around any inner handler, the file service of the router among
them. What the layers see is a success without a type where the policy answers preflights and the
request is one, and the reply of the inner handler otherwise. A fixed type counts before all others,
and of several the last; then the type of the first rule whose suffix ends the path, if the status
seen is a success or says that nothing changed; then the types seen. -/
theorem Router.values_contentType (built : Router.build root p = .ok r) {inner : Handler}
    {q : Request} {reply : Reply} (replied : p.serve r.fields inner q = .ok reply) :
    (∀ tree, r.handle tree q = p.serve r.fields (.ofFunction (serveFiles tree root)) q) ∧
    ∃ seen : Reply,
      (p.answerPreflight = true ∧ q.method.token = "OPTIONS" →
        seen.response.status.code = 200 ∧ seen.response.headers.values .contentType = []) ∧
      (¬ (p.answerPreflight = true ∧ q.method.token = "OPTIONS") → inner q = .ok seen) ∧
      (∀ value, (p.fixedValues .contentType).getLast? = some value →
        reply.response.headers.values .contentType = [value]) ∧
      (p.fixedValues .contentType = [] →
        (∀ rule, p.IsFirstRule q.path rule →
          ((200 ≤ seen.response.status.code ∧ seen.response.status.code ≤ 299) ∨
            seen.response.status.code = 304) →
          reply.response.headers.values .contentType = [rule.type]) ∧
        ((∀ rule ∈ p.contentTypes, ¬ utf8 rule.suffix <:+ utf8 q.path) ∨
            ¬ ((200 ≤ seen.response.status.code ∧ seen.response.status.code ≤ 299) ∨
              seen.response.status.code = 304) →
          reply.response.headers.values .contentType =
            seen.response.headers.values .contentType)) := by
  obtain ⟨fields, accepted, rfl⟩ := Router.build_eq_ok_iff.mp built
  obtain ⟨seen, hseen, -, rfl⟩ := Policy.serve_eq_ok_iff.mp replied
  refine ⟨fun tree => rfl, seen, fun answered => ?_, fun handedOn => ?_,
    fun value => Policy.values_serve_of_fixed accepted replied, fun free => ?_⟩
  · -- the bare answer to a preflight, which has no fields at all
    rw [Policy.innerReply_of_answers answered] at hseen
    obtain rfl := Except.ok.inj hseen
    exact ⟨rfl, rfl⟩
  · rw [← hseen, Policy.innerReply_of_not_answers handedOn]
  · rw [Response.values_contentType_dressed accepted free]
    refine ⟨fun rule first typed => ?_, fun unforced => ?_⟩
    · -- a rule applies and the status lets it
      rw [Policy.forcedType?_eq_some_iff.mpr ⟨Status.isTyped_iff.mpr typed, rule, first, rfl⟩,
        Option.elim_some]
    · -- no rule applies, or the status does not let it
      have nothing : p.forcedType? q seen.response.status = none := by
        rw [Option.eq_none_iff_forall_ne_some]
        intro type forced
        obtain ⟨typed, rule, first, -⟩ := Policy.forcedType?_eq_some_iff.mp forced
        rcases unforced with unmatched | untyped
        · exact unmatched rule first.mem first.1
        · exact untyped (Status.isTyped_iff.mp typed)
      rw [nothing, Option.elim_none]

/-- A policy in which two rules compete for a path. -/
def twoRules : Policy := ⟨[⟨"x-page", "1"⟩], [⟨".min.js", "text/min"⟩, ⟨".js", "text/plain"⟩], true⟩

/-- A handler that gives two types. -/
def twoTypes (status : Status) : Handler := .ofFunction fun _ =>
  ⟨status, .ofList [⟨.contentType, "text/a"⟩, ⟨.contentType, "text/b"⟩], []⟩

/-- The first of two rules takes the place of both types of an unmodified response. Both types of a
response for a path where nothing was found stay. A preflight has the type of the rule, and none
without a rule, whatever the handler would have given. -/
theorem Router.values_contentType_twoRules :
    ∃ r, Router.build [] twoRules = .ok r ∧
      (∃ reply, twoRules.serve r.fields (twoTypes .notModified)
          ⟨.get, .origin "/a.min.js" none, .empty⟩ = .ok reply ∧
        reply.response.headers.values .contentType = ["text/min"]) ∧
      (∃ reply, twoRules.serve r.fields (twoTypes .notFound)
          ⟨.get, .origin "/a.min.js" none, .empty⟩ = .ok reply ∧
        reply.response.headers.values .contentType = ["text/a", "text/b"]) ∧
      (∃ reply, twoRules.serve r.fields (twoTypes .notFound)
          ⟨.options, .origin "/a.min.js" none, .empty⟩ = .ok reply ∧
        reply.response.headers.values .contentType = ["text/min"]) ∧
      ∃ reply, twoRules.serve r.fields (twoTypes .notFound)
          ⟨.options, .origin "/a.css" none, .empty⟩ = .ok reply ∧
        reply.response.headers.values .contentType = [] := by
  have free : twoRules.fixedValues .contentType = [] := by decide
  have first : twoRules.IsFirstRule "/a.min.js" ⟨".min.js", "text/min"⟩ :=
    Policy.find?_eq_some_iff.mp (by decide)
  have law := @Router.values_contentType [] twoRules _ rfl
  -- Requests that are handed on fix the reply seen; of preflights the status and the types are known.
  refine ⟨_, rfl, ⟨_, rfl, ?_⟩, ⟨_, rfl, ?_⟩, ⟨_, rfl, ?_⟩, ⟨_, rfl, ?_⟩⟩
  · obtain ⟨-, seen, -, handedOn, -, rules⟩ :=
      @law (twoTypes .notModified) ⟨.get, .origin "/a.min.js" none, .empty⟩ _ rfl
    obtain rfl := Except.ok.inj (handedOn (by decide))
    exact (rules free).1 _ first (by decide)
  · obtain ⟨-, seen, -, handedOn, -, rules⟩ :=
      @law (twoTypes .notFound) ⟨.get, .origin "/a.min.js" none, .empty⟩ _ rfl
    obtain rfl := Except.ok.inj (handedOn (by decide))
    exact (rules free).2 (.inr (by decide))
  · obtain ⟨-, seen, answered, -, -, rules⟩ :=
      @law (twoTypes .notFound) ⟨.options, .origin "/a.min.js" none, .empty⟩ _ rfl
    obtain ⟨status, -⟩ := answered ⟨rfl, rfl⟩
    exact (rules free).1 _ first (by simp [status])
  · obtain ⟨-, seen, answered, -, -, rules⟩ :=
      @law (twoTypes .notFound) ⟨.options, .origin "/a.css" none, .empty⟩ _ rfl
    obtain ⟨-, types⟩ := answered ⟨rfl, rfl⟩
    exact ((rules free).2 (.inl (by decide))).trans types

end Router

end PreviewServer
