import PreviewServer.Proofs.Layers
import PreviewServer.Proofs.Session

/-!
# Preflight requests

A policy that answers preflight requests answers them from itself and the path alone: neither the
files, nor the directory, nor the headers of the request count. Requests with other methods do not
notice whether it does.

## Main results

* `Policy.serve_preflight_congr`: two preflights for one path get one reply
* `Policy.response_of_preflight`: what that reply is
* `Policy.serve_answerPreflight`: other methods do not notice
* `Router.preflight_isolated`: all three for routers
-/

namespace PreviewServer

/-! ## Through all stages -/

section Serve

variable {p : Policy} {fields : List Field}

/-- Two preflights for one path get one reply, whatever the inner handlers. -/
theorem Policy.serve_preflight_congr (answers : p.answerPreflight = true) {q₁ q₂ : Request}
    (preflight₁ : q₁.method.token = "OPTIONS") (preflight₂ : q₂.method.token = "OPTIONS")
    (path : q₁.path = q₂.path) (inner₁ inner₂ : Handler) :
    p.serve fields inner₁ q₁ = p.serve fields inner₂ q₂ := by
  have method : q₁.method = q₂.method := Method.eq_iff_token.mpr (preflight₁.trans preflight₂.symm)
  refine Policy.serve_congr rfl method path ?_ fields
  rw [Policy.innerReply_of_answers ⟨answers, preflight₁⟩,
    Policy.innerReply_of_answers ⟨answers, preflight₂⟩]

/-- The reply to a preflight is an empty success, and its fields come from the policy or tell its
length. -/
theorem Policy.response_of_preflight (accepted : p.validate = .ok fields)
    (answers : p.answerPreflight = true) {q : Request} (preflight : q.method.token = "OPTIONS")
    {inner : Handler} {reply : Reply} (served : p.serve fields inner q = .ok reply) :
    reply.response.status = .ok ∧ reply.response.body = [] ∧
      ∀ f ∈ reply.response.headers.fields,
        (∃ h ∈ p.headers, h.isFor f.name = true ∧ h.value = f.value) ∨
        (f.name = .contentType ∧ p.contentTypeFor? q.path = some f.value) ∨
        (f.name = .contentLength ∧ f.value = "0" ∧ Target.isRooted q.path = false) := by
  obtain ⟨seen, hseen, -, rfl⟩ := Policy.serve_eq_ok_iff.mp served
  -- What enters the stages is the bare answer to a preflight.
  rw [Policy.innerReply_of_answers ⟨answers, preflight⟩] at hseen
  obtain rfl := Except.ok.inj hseen
  refine ⟨?_, ?_, fun f hf => ?_⟩
  · simp [Response.dressed, Response.typed, Response.bare]
  · apply body_finish_of_body_eq_nil
    simp [Response.typed, Response.bare]
  · rcases Response.mem_fields_dressed accepted hf with fixed | forced | length | bare
    · exact .inl fixed
    · -- A success is a status whose type is forced.
      exact .inr (.inl forced)
    · exact .inr (.inr length)
    · cases bare

/-- Requests with other methods do not notice whether a policy answers preflights. -/
theorem Policy.serve_answerPreflight (answer : Bool) {q : Request}
    (other : q.method.token ≠ "OPTIONS") (inner : Handler) :
    { p with answerPreflight := answer }.serve fields inner q = p.serve fields inner q := by
  have types : { p with answerPreflight := answer }.contentTypes = p.contentTypes := rfl
  refine Policy.serve_congr types rfl rfl ?_ fields
  rw [Policy.innerReply_of_not_answers fun answered => other answered.2,
    Policy.innerReply_of_not_answers fun answered => other answered.2]

end Serve

/-! ## Routers -/

section Router

variable {p : Policy} {root₁ root₂ : List String} {r₁ r₂ : Router}

/-- **Preflight requests are isolated.** Under a policy that answers them, their reply depends on
the path alone, whatever the directories, the trees and the headers of the requests; it is an empty
success with headers of the policy only, and a length if the path is not rooted. No request with
another method notices whether the policy answers them. -/
theorem Router.preflight_isolated (built₁ : Router.build root₁ p = .ok r₁)
    (built₂ : Router.build root₂ p = .ok r₂) :
    (p.answerPreflight = true → ∀ (tree₁ tree₂ : FileTree) (q₁ q₂ : Request),
      q₁.method.token = "OPTIONS" → q₂.method.token = "OPTIONS" → q₁.path = q₂.path →
        r₁.handle tree₁ q₁ = r₂.handle tree₂ q₂ ∧
        ∀ reply, r₁.handle tree₁ q₁ = .ok reply →
          reply.response.status = .ok ∧ reply.response.body = [] ∧
          ∀ f ∈ reply.response.headers.fields,
            (∃ h ∈ p.headers, h.isFor f.name = true ∧ h.value = f.value) ∨
            (f.name = .contentType ∧ p.contentTypeFor? q₁.path = some f.value) ∨
            (f.name = .contentLength ∧ f.value = "0" ∧ Target.isRooted q₁.path = false)) ∧
    (∀ answer, ∃ r, Router.build root₁ { p with answerPreflight := answer } = .ok r ∧
      ∀ (tree : FileTree) (q : Request), q.method.token ≠ "OPTIONS" →
        r.handle tree q = r₁.handle tree q) := by
  obtain ⟨fields, accepted, rfl⟩ := Router.build_eq_ok_iff.mp built₁
  obtain ⟨fields', accepted', rfl⟩ := Router.build_eq_ok_iff.mp built₂
  obtain rfl := Except.ok.inj (accepted.symm.trans accepted')
  refine ⟨fun answers tree₁ tree₂ q₁ q₂ options₁ options₂ path => ?_, fun answer => ?_⟩
  · exact ⟨Policy.serve_preflight_congr answers options₁ options₂ path _ _,
      fun reply replied => Policy.response_of_preflight accepted answers options₁ replied⟩
  · have accepted'' : { p with answerPreflight := answer }.validate = .ok fields :=
      (Policy.validate_answerPreflight p answer).trans accepted
    refine ⟨_, Router.build_eq_ok_iff.mpr ⟨fields, accepted'', rfl⟩, fun tree q other => ?_⟩
    exact Policy.serve_answerPreflight answer other _

/-- A preflight for a page that is there and one for a page that is not get the same empty
success. -/
theorem Router.preflight_devPolicy :
    ∃ r₁ r₂ reply, Router.build ["www"] devPolicy = .ok r₁ ∧ Router.build [] devPolicy = .ok r₂ ∧
      r₁.handle (FileTree.empty.write ["www", "a.js"] (.file [49] 0))
        ⟨.options, .origin "/a.js" none, .ofList [⟨.range, "bytes=0-"⟩]⟩ = .ok reply ∧
      r₂.handle .empty ⟨.options, .absolute "http" "b" "/a.js" (some "x"), .empty⟩ = .ok reply ∧
      reply.response.status = .ok ∧ reply.response.body = [] := by
  have isolated := (@Router.preflight_isolated devPolicy ["www"] [] _ _ rfl rfl).1 rfl
    (FileTree.empty.write ["www", "a.js"] (.file [49] 0)) .empty
    ⟨.options, .origin "/a.js" none, .ofList [⟨.range, "bytes=0-"⟩]⟩
    ⟨.options, .absolute "http" "b" "/a.js" (some "x"), .empty⟩ rfl rfl rfl
  obtain ⟨status, body, -⟩ := isolated.2 _ rfl
  exact ⟨_, _, _, rfl, rfl, rfl, isolated.1.symm, status, body⟩

end Router

end PreviewServer
