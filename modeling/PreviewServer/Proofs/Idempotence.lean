import PreviewServer.Proofs.NormalForm
import PreviewServer.Proofs.PassThrough

/-!
# Layers laid twice

The layers of a policy may come to lie around a handler twice. The second time they find a response
that carries the fixed headers already, and perhaps a fixed type in place of the one that the path
asks for. They set the same type and the same headers again, and end with the response that they
found: what is set last hides what was set before it, wherever that stood. Only the log tells the
difference, since each override layer that comes to its end leaves a record.

## Main definitions

* `Headers.besides`: the fields that are not touched when others are set
* `Policy.IsIdempotent`: layers that make no difference when they are laid a second time

## Main results

* `Headers.fields_foldl_set`: which fields are there after several were set, and in which order
* `Response.setFields_withType_setFields`: fields that are set again hide that they were set before
* `Policy.wrap_wrap`: the reply of the layers laid twice, with its log
* `Policy.layers_idempotent`: neither the layers of a policy nor its override layer alone make a
  difference the second time
-/

namespace PreviewServer

/-! ## Setting again -/

/-- The fields that are not touched when others are set, since their names are not among them. -/
def Headers.besides (h : Headers) (fields : List Field) : List Field :=
  h.fields.filter (·.name ∉ fields.map (·.name))

namespace Headers

variable (h : Headers) (fields : List Field)

/-- Of the fields before a value is set, those are untouched that were so without it and have
another name. -/
theorem besides_set (name : HeaderName) (value : String) :
    (h.set name value).besides fields =
      (h.besides fields).filter (·.name ≠ name) ++
        if name ∈ fields.map (·.name) then [] else [⟨name, value⟩] := by
  simp only [besides, set, erase, List.filter_append, List.filter_filter, Bool.and_comm]
  congr 1
  split
  · rename_i among
    simpa using among
  · rename_i other
    simpa using other

/-- **The fields after several were set**: those of other names as they stood, and then the last one
of each name. -/
theorem fields_foldl_set :
    (fields.foldl (fun h f => h.set f.name f.value) h).fields =
      h.besides fields ++ lastOfEachName fields := by
  induction fields generalizing h with
  | nil => simp [besides, lastOfEachName]
  | cons f fields ih =>
    have others : h.besides (f :: fields) = (h.besides fields).filter (·.name ≠ f.name) := by
      simp [besides, List.filter_filter]
    rw [List.foldl_cons, ih, besides_set, others, lastOfEachName, List.append_assoc]
    -- The field just set is dropped again if a later one has its name.
    congr 1
    split
    · rfl
    · rfl

theorem besides_foldl_set :
    (fields.foldl (fun h f => h.set f.name f.value) h).besides fields = h.besides fields := by
  have set : (lastOfEachName fields).filter (·.name ∉ fields.map (·.name)) = [] := by
    rw [List.filter_eq_nil_iff]
    intro f kept
    simpa using ⟨f, mem_of_mem_lastOfEachName kept, rfl⟩
  rw [besides, fields_foldl_set, List.filter_append, set, List.append_nil, besides,
    List.filter_filter]
  simp only [Bool.and_self]

theorem set_set (name : HeaderName) (value : String) :
    (h.set name value).set name value = h.set name value := by
  simp [set, erase]

end Headers

section Again

variable {r s : Response} {fields : List Field}

/-- Before fields are set, only the fields of other names count. -/
theorem Response.setFields_congr (status : r.status = s.status) (body : r.body = s.body)
    (besides : r.headers.besides fields = s.headers.besides fields) :
    r.setFields fields = s.setFields fields := by
  have headers : (r.setFields fields).headers = (s.setFields fields).headers := by
    rw [Headers.mk.injEq]
    simp only [Response.setFields, Headers.fields_foldl_set, besides]
  rw [Response.mk.injEq]
  exact ⟨status, headers, body⟩

theorem Response.withType_withType (r : Response) (type? : Option String) :
    (r.withType type?).withType type? = r.withType type? := by
  cases type? with
  | none => rfl
  | some type => simp [Response.withType, Headers.set_set]

/-- **Fields that are set again hide that they were set before**, whatever type was set between. -/
theorem Response.setFields_withType_setFields (r : Response) (type? : Option String)
    (fields : List Field) :
    ((r.setFields fields).withType type?).setFields fields =
      (r.withType type?).setFields fields := by
  apply Response.setFields_congr
  · simp
  · simp
  · have again : (r.setFields fields).headers.besides fields = r.headers.besides fields :=
      Headers.besides_foldl_set r.headers fields
    cases type? with
    | none => exact again
    | some type =>
      simp only [Response.withType, Option.elim_some, Headers.besides_set, again]

@[simp] theorem Response.status_typed (r : Response) (p : Policy) (q : Request) :
    (r.typed p q).status = r.status :=
  Response.status_withType r _

/-- A response that has passed the layers passes them once more as it is: the status is the same,
and so is the type to force. -/
theorem Response.layers_layers (r : Response) (p : Policy) (fields : List Field) (q : Request) :
    (((r.typed p q).setFields fields).typed p q).setFields fields =
      (r.typed p q).setFields fields := by
  rw [Response.typed, Response.status_setFields, Response.status_typed,
    Response.setFields_withType_setFields, Response.typed, Response.withType_withType]

end Again

/-! ## The reply of layers laid twice -/

section Twice

variable {p : Policy} {fields : List Field} {inner : Handler} {q : Request}

/-- A preflight that the layers answer never comes to what they lie around. -/
theorem Policy.wrap_of_answers (answered : p.answers q = true) (inner' : Handler) :
    p.wrap fields inner q = p.wrap fields inner' q := by
  have seen : p.innerReply inner q = p.innerReply inner' q := by
    rw [Policy.innerReply, Policy.innerReply, if_pos answered, if_pos answered]
  simp only [Policy.wrap, setHeaders, overrideTypes_congr_seen rfl rfl rfl seen]

theorem Policy.wrap_of_error (handedOn : p.answers q = false) {fault : Fault}
    (broken : inner q = .error fault) : p.wrap fields inner q = .error fault := by
  have seen : p.innerReply inner q = .error fault := by
    rw [Policy.innerReply, handedOn, broken]
    rfl
  simp only [Policy.wrap, setHeaders, overrideTypes, seen]
  rfl

/-- **The reply of the layers laid twice** to a request that is handed on: it is their reply when
they are laid once, with one more record. -/
theorem Policy.wrap_wrap (handedOn : p.answers q = false) {once : Reply}
    (wrapped : p.wrap fields inner q = .ok once) :
    p.wrap fields (p.wrap fields inner) q =
      .ok ⟨once.response, once.log ++ [requestRecord q once.response.status]⟩ := by
  have seenTwice : p.innerReply (p.wrap fields inner) q = .ok once := by
    rw [Policy.innerReply, handedOn, wrapped]
    rfl
  obtain ⟨seen, -, plain, rfl⟩ := Policy.wrap_eq_ok_iff.mp wrapped
  refine Policy.wrap_eq_ok_iff.mpr ⟨_, seenTwice, ?_, ?_⟩
  · -- The outer layers see the status that the inner ones saw, and so the same type to force.
    rwa [Response.status_setFields, Response.status_typed]
  · rw [Response.layers_layers]

theorem Policy.wrap_nil (p : Policy) : p.wrap [] = overrideTypes p := by
  funext inner q
  rw [Policy.wrap, setHeaders]
  cases overrideTypes p inner q with
  | error fault => rfl
  | ok reply => rfl

end Twice

/-! ## Idempotence -/

/-- Whether layers of a policy make no difference when they are laid around a handler a second time:
a request gets the same response, or is broken off with the same fault. Each override layer that
comes to its end leaves one record: two of them do for a request that is handed on, and one for a
preflight, which the outer layer answers itself. -/
structure Policy.IsIdempotent (p : Policy) (layers : Handler → Handler) : Prop where
  response : ∀ inner q,
    (layers (layers inner) q).map (·.response) = (layers inner q).map (·.response)
  log : ∀ inner q once, layers inner q = .ok once → ∃ twice, layers (layers inner) q = .ok twice ∧
    (p.answers q = true →
      once.log = [requestRecord q once.response.status] ∧
      twice.log = [requestRecord q once.response.status]) ∧
    (p.answers q = false → ∃ seen, inner q = .ok seen ∧
      once.log = seen.log ++ [requestRecord q once.response.status] ∧
      twice.log = seen.log ++
        [requestRecord q once.response.status, requestRecord q once.response.status])

theorem Policy.isIdempotent_wrap (p : Policy) (fields : List Field) :
    p.IsIdempotent (p.wrap fields) where
  response inner q := by
    cases answered : p.answers q with
    | true => rw [Policy.wrap_of_answers answered inner]
    | false =>
      cases wrapped : p.wrap fields inner q with
      | error fault => rw [Policy.wrap_of_error answered wrapped]
      | ok once =>
        rw [Policy.wrap_wrap answered wrapped]
        rfl
  log inner q once wrapped := by
    obtain ⟨seen, hseen, -, rfl⟩ := Policy.wrap_eq_ok_iff.mp wrapped
    rw [Policy.innerReply] at hseen
    cases answered : p.answers q with
    | true =>
      rw [answered, if_pos rfl, Except.ok.injEq] at hseen
      subst hseen
      refine ⟨_, (Policy.wrap_of_answers answered inner).trans wrapped, ?_, ?_⟩
      · intro _
        simp
      · intro handedOn
        cases handedOn
    | false =>
      rw [answered, if_neg Bool.false_ne_true] at hseen
      refine ⟨_, Policy.wrap_wrap answered wrapped, ?_, ?_⟩
      · intro answered
        cases answered
      · intro _
        refine ⟨seen, hseen, ?_, ?_⟩
        · simp
        · simp

/-- **The layers of a policy are idempotent**, whatever headers they fix, and its override layer
alone is so too. None of this asks for a policy that was accepted. -/
theorem Policy.layers_idempotent (p : Policy) :
    (∀ fields, p.IsIdempotent (p.wrap fields)) ∧ p.IsIdempotent (overrideTypes p) := by
  refine ⟨p.isIdempotent_wrap, ?_⟩
  rw [← p.wrap_nil]
  exact p.isIdempotent_wrap []

end PreviewServer
