import PreviewServer.Proofs.ResponseHeaders

/-!
# What passes through the layers

A request that is not answered as a preflight is handed on, and most of the inner response comes out
as it went in: the layers of a policy touch the type and the fixed headers, and nothing else. What
finishing does after them is told by the method, by the status and by whether the path is rooted.

## Main definitions

* `Policy.IsSilentOn`: the names that a policy has nothing to say about

## Main results

* `Policy.serve_of_wrap`: what finishing makes of the reply of the layers
* `Response.values_layers_of_isSilentOn`: the values of such a name stay as they are
* `Router.passes_through`: what passes through the layers of a router, and what finishing adds
-/

namespace PreviewServer

/-- Whether a policy has nothing to say about a name: it is not the name of types, and no fixed
header is for it, in any case. -/
def Policy.IsSilentOn (p : Policy) (name : HeaderName) : Prop :=
  name ≠ .contentType ∧ ∀ h ∈ p.headers, asciiLower h.name ≠ name.text

theorem Policy.fixedValues_of_isSilentOn {p : Policy} {name : HeaderName}
    (silent : p.IsSilentOn name) : p.fixedValues name = [] := by
  rw [List.eq_nil_iff_forall_not_mem]
  intro value fixed
  obtain ⟨h, listed, named, -⟩ := Policy.mem_fixedValues.mp fixed
  exact silent.2 h listed (of_decide_eq_true named)

/-! ## The layers without the last step -/

section Layers

variable {p : Policy} {fields : List Field} {inner : Handler} {q : Request} {reply : Reply}

/-- Finishing breaks nothing off, and adds nothing to the log. -/
theorem Policy.serve_of_wrap (wrapped : p.wrap fields inner q = .ok reply) :
    p.serve fields inner q = .ok { reply with response := finish q reply.response } := by
  unfold Policy.serve
  rw [wrapped]
  rfl

/-- Neither the type nor the fixed headers touch the values of a name that the policy is silent
on. -/
theorem Response.values_layers_of_isSilentOn (accepted : p.validate = .ok fields) (r : Response)
    (q : Request) {name : HeaderName} (silent : p.IsSilentOn name) :
    ((r.typed p q).setFields fields).headers.values name = r.headers.values name := by
  rw [Response.values_setFields, Policy.values_of_validate accepted,
    Policy.fixedValues_of_isSilentOn silent, List.getLast?_nil, Option.elim_none,
    Response.typed, Response.values_withType, if_neg silent.1]

/-- So no field of such a name is new. -/
theorem Response.mem_fields_of_isSilentOn (accepted : p.validate = .ok fields) {r : Response}
    {q : Request} {f : Field} (silent : p.IsSilentOn f.name)
    (hf : f ∈ ((r.typed p q).setFields fields).headers.fields) : f ∈ r.headers.fields := by
  rw [Headers.mem_fields_iff] at hf ⊢
  rwa [Response.values_layers_of_isSilentOn accepted r q silent] at hf

end Layers

/-! ## Routers -/

theorem Status.isSuccess_iff {s : Status} : s.isSuccess = true ↔ 200 ≤ s.code ∧ s.code ≤ 299 := by
  simp [Status.isSuccess]

section Router

variable {root : List String} {p : Policy} {r : Router}

/-- **What the policy does not name passes through**, around any inner handler. Of a request that is
handed on and replied to, the layers return the status and the body of the inner response, and the
values of every name other than that of types and those of the policy, in their order and number; no
other name comes in. Finishing then takes the body of a granted tunnel away. For a path that is not
rooted it adds a length where there is none, and takes the body away if only the head was asked
for. -/
theorem Router.passes_through (built : Router.build root p = .ok r) {inner : Handler} {q : Request}
    (handedOn : ¬ (p.answerPreflight = true ∧ q.method.token = "OPTIONS")) {reply : Reply}
    (replied : p.wrap r.fields inner q = .ok reply) :
    ∃ seen, inner q = .ok seen ∧
      reply.response.status = seen.response.status ∧
      reply.response.body = seen.response.body ∧
      (∀ name, p.IsSilentOn name →
        reply.response.headers.values name = seen.response.headers.values name) ∧
      (∀ f ∈ reply.response.headers.fields,
        p.IsSilentOn f.name → f ∈ seen.response.headers.fields) ∧
      ∃ finished, p.serve r.fields inner q = .ok finished ∧
        finished.log = reply.log ∧
        finished.response.status = reply.response.status ∧
        finished.response.body =
          (if (q.method.token = "CONNECT" ∧
                200 ≤ reply.response.status.code ∧ reply.response.status.code ≤ 299) ∨
              (Target.isRooted q.path = false ∧ q.method.token = "HEAD") then []
            else reply.response.body) ∧
        ∀ name, finished.response.headers.values name =
          if (name = .contentLength ∧ reply.response.headers.values name = []) ∧
              Target.isRooted q.path = false ∧
              ¬ (q.method.token = "CONNECT" ∧
                200 ≤ reply.response.status.code ∧ reply.response.status.code ≤ 299) then
            [decimal reply.response.body.length]
          else reply.response.headers.values name := by
  obtain ⟨fields, accepted, rfl⟩ := Router.build_eq_ok_iff.mp built
  obtain ⟨seen, hseen, -, rfl⟩ := Policy.wrap_eq_ok_iff.mp replied
  rw [Policy.innerReply_of_not_answers handedOn] at hseen
  have connect : q.method = .connect ↔ q.method.token = "CONNECT" := Method.eq_iff_token
  have head : q.method = .head ↔ q.method.token = "HEAD" := Method.eq_iff_token
  refine ⟨seen, hseen, ?_, ?_, fun name silent => ?_, fun f hf silent => ?_,
    _, Policy.serve_of_wrap replied, rfl, status_finish _ q, ?_, fun name => ?_⟩
  · exact Response.status_withType _ _
  · exact Response.body_withType _ _
  · exact Response.values_layers_of_isSilentOn accepted _ q silent
  · exact Response.mem_fields_of_isSilentOn accepted silent hf
  -- What is left is finishing, which knows the methods by name and the success by its class.
  · simp only [← connect, ← head, ← Status.isSuccess_iff]
    exact body_finish _ q
  · simp only [← connect, ← Status.isSuccess_iff]
    exact values_finish _ q name

/-- The name under which a response hands out cookies. -/
def setCookie : HeaderName := ⟨"set-cookie", by decide, by decide⟩

/-- A handler that hands out two cookies, with a type between them. -/
def twoCookies : Handler := .ofFunction fun _ =>
  ⟨.ok, .ofList [⟨setCookie, "a"⟩, ⟨.contentType, "text/a"⟩, ⟨setCookie, "b"⟩], [104, 105]⟩

/-- Both cookies pass through in their order, although a header is fixed beside them. The answer to
a request for the head of the server as a whole gets its length and loses its body at the very end.
-/
theorem Router.passes_through_twoCookies :
    ∃ r reply finished, Router.build [] twoRules = .ok r ∧
      twoRules.wrap r.fields twoCookies ⟨.head, .asterisk, .empty⟩ = .ok reply ∧
      twoRules.serve r.fields twoCookies ⟨.head, .asterisk, .empty⟩ = .ok finished ∧
      reply.response.headers.values setCookie = ["a", "b"] ∧
      reply.response.body = [104, 105] ∧
      finished.response.headers.values .contentLength = ["2"] ∧
      finished.response.body = [] := by
  have silent : twoRules.IsSilentOn setCookie := ⟨by decide, by decide⟩
  obtain ⟨seen, hseen, -, body, values, -, finished, served, -, -, body', values'⟩ :=
    @Router.passes_through [] twoRules _ rfl twoCookies ⟨.head, .asterisk, .empty⟩ (by decide) _ rfl
  obtain rfl := Except.ok.inj hseen
  refine ⟨_, _, finished, rfl, rfl, served, values setCookie silent, body, ?_, ?_⟩
  · rw [values', if_pos (by decide), body]
    decide
  · rw [body', if_pos (by decide)]

end Router

end PreviewServer
