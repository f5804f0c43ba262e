import PreviewServer.Proofs.Layers
import PreviewServer.Proofs.Session

/-!
# Normal forms of policies

Of the fixed headers of a policy only the last one of each name counts, and neither the case of the
names nor the order of different names does. So an accepted policy can be brought to a normal form,
in which each name stands once and in small letters, and no session tells the two apart.

## Main definitions

* `lastOfEachName`: the fields that count when fields are set one after the other
* `Policy.IsNormalForm`: the normal forms of an accepted policy
* `Response.Alike`, `Outcome.Alike`: responses and outcomes up to the order of header fields
* `Policy.Indistinguishable`: policies that no session of a router tells apart

## Main results

* `Headers.perm_of_values_eq`: headers with the same values for every name have the same fields
* `Policy.validate_map_toFixedHeader`: fields taken as fixed headers are accepted as they are
* `Response.alike_finish_setFields`: fields with the same last values have the same effect
* `Policy.indistinguishable_of_last`: policies with the same last values cannot be told apart
* `Policy.determined_by_normalForm`: a policy cannot be told from its normal forms
-/

namespace PreviewServer

/-! ## Up to the order of header fields -/

/-- Whether two responses are the same up to the order of their header fields. -/
structure Response.Alike (r s : Response) : Prop where
  status : r.status = s.status
  body : r.body = s.body
  fields : r.headers.fields.Perm s.headers.fields

/-- Whether two outcomes are the same up to the order of header fields. -/
inductive Outcome.Alike : Outcome → Outcome → Prop
  | broken (fault : Fault) : Outcome.Alike (.replied (.error fault)) (.replied (.error fault))
  | replied {a b : Reply} (response : a.response.Alike b.response) (log : a.log = b.log) :
    Outcome.Alike (.replied (.ok a)) (.replied (.ok b))
  | written : Outcome.Alike .written .written
  | removed : Outcome.Alike .removed .removed

theorem Headers.filter_name_eq (h : Headers) (name : HeaderName) :
    h.fields.filter (·.name = name) = (h.values name).map (⟨name, ·⟩) := by
  -- Among the fields of one name, a field is told by its value.
  rw [Headers.values, List.map_map]
  conv_lhs => rw [← List.map_id (List.filter _ _)]
  refine List.map_congr_left fun f hf => ?_
  obtain rfl : f.name = name := by simpa using (List.mem_filter.mp hf).2
  rfl

/-- Headers with the same values for every name have the same fields, up to their order. -/
theorem Headers.perm_of_values_eq {h k : Headers}
    (values : ∀ name, h.values name = k.values name) : h.fields.Perm k.fields := by
  refine List.perm_iff_count.mpr fun f => ?_
  calc h.fields.count f
      = (h.fields.filter (·.name = f.name)).count f := (List.count_filter (by simp)).symm
    _ = (k.fields.filter (·.name = f.name)).count f := by
        rw [Headers.filter_name_eq, Headers.filter_name_eq, values]
    _ = k.fields.count f := List.count_filter (by simp)

/-! ## The fields that count -/

/-- The last field of each name: a field is dropped if a later one has its name. -/
def lastOfEachName : List Field → List Field
  | [] => []
  | f :: fields =>
    if f.name ∈ fields.map (·.name) then lastOfEachName fields else f :: lastOfEachName fields

theorem Headers.values_ofList_cons (f : Field) (fields : List Field) (name : HeaderName) :
    (Headers.ofList (f :: fields)).values name =
      if f.name = name then f.value :: (Headers.ofList fields).values name
      else (Headers.ofList fields).values name := by
  by_cases hn : f.name = name <;> simp [Headers.values, Headers.ofList, hn]

theorem Headers.values_ofList_eq_nil_iff {fields : List Field} {name : HeaderName} :
    (Headers.ofList fields).values name = [] ↔ name ∉ fields.map (·.name) := by
  simp [Headers.values, Headers.ofList]

theorem values_lastOfEachName (fields : List Field) (name : HeaderName) :
    (Headers.ofList (lastOfEachName fields)).values name =
      ((Headers.ofList fields).values name).getLast?.toList := by
  induction fields with
  | nil => rfl
  | cons f fields ih =>
    rw [lastOfEachName, Headers.values_ofList_cons]
    split
    · rename_i later
      rw [ih]
      split
      · -- The field is for this name, and a later one takes its place.
        rename_i hn
        subst hn
        have some_value : (Headers.ofList fields).values f.name ≠ [] :=
          fun none => Headers.values_ofList_eq_nil_iff.mp none later
        rw [List.getLast?_cons, List.getLast?_eq_some_getLast some_value]
        rfl
      · rfl
    · rename_i last
      rw [Headers.values_ofList_cons, ih]
      split
      · -- The field is for this name, and it is the only one left.
        rename_i hn
        subst hn
        rw [Headers.values_ofList_eq_nil_iff.mpr last]
        rfl
      · rfl

theorem getLast?_values_of_perm {kept fields : List Field}
    (perm : kept.Perm (lastOfEachName fields)) (name : HeaderName) :
    ((Headers.ofList kept).values name).getLast? =
      ((Headers.ofList fields).values name).getLast? := by
  have values : ((Headers.ofList kept).values name).Perm
      ((Headers.ofList (lastOfEachName fields)).values name) := (perm.filter _).map _
  rw [values_lastOfEachName] at values
  -- There is one value at most, and so nothing to rearrange.
  cases last : ((Headers.ofList fields).values name).getLast? with
  | none =>
    rw [last] at values
    rw [List.perm_nil.mp values]
    rfl
  | some value =>
    rw [last] at values
    rw [List.perm_singleton.mp values]
    rfl

theorem mem_of_mem_lastOfEachName {f : Field} {fields : List Field}
    (kept : f ∈ lastOfEachName fields) : f ∈ fields := by
  induction fields with
  | nil => exact kept
  | cons g fields ih =>
    rw [lastOfEachName] at kept
    split at kept
    · exact List.mem_cons_of_mem g (ih kept)
    · rcases List.mem_cons.mp kept with rfl | inside
      · exact List.mem_cons_self
      · exact List.mem_cons_of_mem g (ih inside)

/-! ## Normal forms -/

/-- A field as the fixed header that sets it. -/
def Field.toFixedHeader (f : Field) : FixedHeader := ⟨f.name.text, f.value⟩

theorem Field.validate_toFixedHeader {f : Field} (legal : isLegalValue f.value = true) :
    f.toFixedHeader.validate = .ok f :=
  FixedHeader.validate_eq_ok_iff.mpr
    ⟨f.name.legal, legal, decide_eq_true f.name.lower, rfl⟩

/-- Whether a policy is a normal form of an accepted one: its fixed headers are the fields that the
other sets, the last of each name, in some order. -/
def Policy.IsNormalForm (normal p : Policy) : Prop :=
  ∃ fields kept : List Field, p.validate = .ok fields ∧ kept.Perm (lastOfEachName fields) ∧
    normal = { p with headers := kept.map Field.toFixedHeader }

section Accepted

variable {p : Policy} {fields : List Field}

theorem Policy.isLegalValue_of_mem_fields (accepted : p.validate = .ok fields) {f : Field}
    (hf : f ∈ fields) : isLegalValue f.value = true := by
  obtain ⟨-, read⟩ := Policy.validate_eq_ok_iff.mp accepted
  have legal : List.Forall₂ (fun f h => isLegalValue f.value = true ∧ h.validate = .ok f)
      fields p.headers := by
    refine read.flip.imp fun f h validated => ⟨?_, validated⟩
    obtain ⟨-, legal, -, valued⟩ := FixedHeader.validate_eq_ok_iff.mp validated
    rwa [← valued]
  exact ((List.forall₂_and_left _ _).mp legal).1 f hf

/-- An accepted policy whose fixed headers are replaced by some of its fields is accepted, and sets
those fields as they stand. -/
theorem Policy.validate_map_toFixedHeader (accepted : p.validate = .ok fields) {kept : List Field}
    (among : ∀ f ∈ kept, f ∈ fields) :
    { p with headers := kept.map Field.toFixedHeader }.validate = .ok kept := by
  refine Policy.validate_eq_ok_iff.mpr ⟨(Policy.validate_eq_ok_iff.mp accepted).1, ?_⟩
  rw [List.forall₂_map_left_iff, List.forall₂_same]
  exact fun f hf =>
    Field.validate_toFixedHeader (Policy.isLegalValue_of_mem_fields accepted (among f hf))

end Accepted

/-! ## Policies that are alike -/

/-- **Fields with the same last values have the same effect** on a response that is then finished.
-/
theorem Response.alike_finish_setFields {fields₁ fields₂ : List Field}
    (last : ∀ name, ((Headers.ofList fields₁).values name).getLast? =
      ((Headers.ofList fields₂).values name).getLast?) (q : Request) (r : Response) :
    (finish q (r.setFields fields₁)).Alike (finish q (r.setFields fields₂)) where
  status := by simp
  body := by
    rw [body_finish, body_finish]
    rfl
  fields := by
    refine Headers.perm_of_values_eq fun name => ?_
    rw [values_finish, values_finish, Response.values_setFields, Response.values_setFields, last]
    rfl

theorem overrideTypes_congr {p₁ p₂ : Policy} (types : p₁.contentTypes = p₂.contentTypes)
    (answer : p₁.answerPreflight = p₂.answerPreflight) (inner : Handler) :
    overrideTypes p₁ inner = overrideTypes p₂ inner := by
  funext q
  refine overrideTypes_congr_seen ?_ rfl rfl (Policy.innerReply_congr answer inner q)
  rw [Policy.contentTypeFor?, Policy.contentTypeFor?, types]

section Alike

variable {p₁ p₂ : Policy} {fields₁ fields₂ : List Field}

/-- Policies that differ in their fixed headers only are alike in each answer, if the headers have
the same last values. -/
theorem Policy.alike_serve (types : p₁.contentTypes = p₂.contentTypes)
    (answer : p₁.answerPreflight = p₂.answerPreflight)
    (last : ∀ name, ((Headers.ofList fields₁).values name).getLast? =
      ((Headers.ofList fields₂).values name).getLast?) (inner : Handler) (q : Request) :
    Outcome.Alike (.replied (p₁.serve fields₁ inner q)) (.replied (p₂.serve fields₂ inner q)) := by
  simp only [Policy.serve, Policy.wrap, setHeaders, overrideTypes_congr types answer]
  -- What the override layer makes of the request is the same; only the fields differ after it.
  cases overrideTypes p₂ inner q with
  | error fault => exact .broken fault
  | ok typed => exact .replied (Response.alike_finish_setFields last q typed.response) rfl

theorem Router.alike_run (types : p₁.contentTypes = p₂.contentTypes)
    (answer : p₁.answerPreflight = p₂.answerPreflight)
    (last : ∀ name, ((Headers.ofList fields₁).values name).getLast? =
      ((Headers.ofList fields₂).values name).getLast?)
    (root : List String) (tree : FileTree) (steps : List Step) :
    List.Forall₂ Outcome.Alike ((Router.mk root p₁ fields₁).run tree steps)
      ((Router.mk root p₂ fields₂).run tree steps) := by
  -- Both routers find the same tree at each step, since requests do not change it.
  induction steps generalizing tree with
  | nil => exact .nil
  | cons step steps ih =>
    refine .cons ?_ (ih _)
    cases step with
    | request q => exact Policy.alike_serve types answer last _ q
    | write path entry => exact .written
    | remove path => exact .removed

/-- Whether routers for a directory can be built with two policies, and no session tells them
apart. -/
def Policy.Indistinguishable (p other : Policy) : Prop :=
  ∀ root, ∃ r s, Router.build root p = .ok r ∧ Router.build root other = .ok s ∧
    ∀ (tree : FileTree) (steps : List Step),
      List.Forall₂ Outcome.Alike (r.run tree steps) (s.run tree steps)

/-- **Accepted policies that differ in their fixed headers only cannot be told apart**, if each name
has the same last value in both. -/
theorem Policy.indistinguishable_of_last (accepted₁ : p₁.validate = .ok fields₁)
    (accepted₂ : p₂.validate = .ok fields₂) (types : p₁.contentTypes = p₂.contentTypes)
    (answer : p₁.answerPreflight = p₂.answerPreflight)
    (last : ∀ name, (p₁.fixedValues name).getLast? = (p₂.fixedValues name).getLast?) :
    p₁.Indistinguishable p₂ := by
  intro root
  refine ⟨_, _, Router.build_eq_ok_iff.mpr ⟨fields₁, accepted₁, rfl⟩,
    Router.build_eq_ok_iff.mpr ⟨fields₂, accepted₂, rfl⟩,
    Router.alike_run types answer (fun name => ?_) root⟩
  rw [Policy.values_of_validate accepted₁, Policy.values_of_validate accepted₂, last]

end Alike

section Determined

variable {p : Policy} {fields : List Field}

/-- **A policy is determined by its normal form.** Every normal form of an accepted policy is
accepted with its headers as they stand, and cannot be told from the policy. Nor can two accepted
policies be told apart that differ in their fixed headers only and have the same last value for
every name. -/
theorem Policy.determined_by_normalForm (accepted : p.validate = .ok fields) :
    (∀ normal : Policy, normal.IsNormalForm p →
      (∃ kept, normal.validate = .ok kept ∧ kept.map Field.toFixedHeader = normal.headers) ∧
      p.Indistinguishable normal) ∧
    (∀ (other : Policy) (fields' : List Field), other.validate = .ok fields' →
      p.contentTypes = other.contentTypes → p.answerPreflight = other.answerPreflight →
      (∀ name, (p.fixedValues name).getLast? = (other.fixedValues name).getLast?) →
      p.Indistinguishable other) := by
  refine ⟨fun normal normalForm => ?_, fun other fields' accepted' types answer last =>
    Policy.indistinguishable_of_last accepted accepted' types answer last⟩
  obtain ⟨fields', kept, accepted', perm, rfl⟩ := normalForm
  obtain rfl := Except.ok.inj (accepted.symm.trans accepted')
  have normal_accepted := Policy.validate_map_toFixedHeader accepted
    fun f hf => mem_of_mem_lastOfEachName (perm.mem_iff.mp hf)
  refine ⟨⟨kept, normal_accepted, rfl⟩,
    Policy.indistinguishable_of_last accepted normal_accepted rfl rfl fun name => ?_⟩
  rw [← Policy.values_of_validate accepted, ← Policy.values_of_validate normal_accepted,
    getLast?_values_of_perm perm]

/-- A policy that fixes a header twice, in two spellings. -/
def spelledPolicy : Policy :=
  ⟨[⟨"X-Page", "1"⟩, ⟨"ALLOW", "GET"⟩, ⟨"x-page", "2"⟩], [⟨".js", "text/plain"⟩], true⟩

/-- A normal form of `spelledPolicy`, in another order. -/
def settledPolicy : Policy :=
  ⟨[⟨"x-page", "2"⟩, ⟨"allow", "GET"⟩], [⟨".js", "text/plain"⟩], true⟩

/-- The repeated header, its spelling and the order make no difference. -/
theorem Policy.indistinguishable_settledPolicy :
    settledPolicy.IsNormalForm spelledPolicy ∧ spelledPolicy.Indistinguishable settledPolicy := by
  have normalForm : settledPolicy.IsNormalForm spelledPolicy :=
    ⟨_, [⟨⟨"x-page", by decide, by decide⟩, "2"⟩, ⟨.allow, "GET"⟩], rfl, by decide, rfl⟩
  exact ⟨normalForm,
    ((@Policy.determined_by_normalForm spelledPolicy _ rfl).1 settledPolicy normalForm).2⟩

end Determined

end PreviewServer
