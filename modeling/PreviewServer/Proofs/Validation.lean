import Mathlib.Data.List.Forall2
import PreviewServer.Policy

/-!
# Accepted policies

Validation reads the two lists of a policy with an early exit. Here its success is taken apart: the
types of an accepted policy are legal values, and the fields it yields stand against the fixed
headers one by one.

## Main definitions

* `FixedHeader.isFor`: whether a fixed header is for a name, in any case
* `Policy.fixedValues`: the values that a policy fixes for a name, in its order

## Main results

* `Policy.validate_eq_ok_iff`: which policies are accepted, and with which fields
* `Policy.values_of_validate`: the fields of an accepted policy give each name the values that the
  policy fixes for it
-/

namespace PreviewServer

/-! ## Computations that may fail -/

section Except

variable {ε α β : Type}

/-- Two steps succeed if the first does, and the second does with its result. -/
theorem bind_eq_ok_iff {x : Except ε α} {f : α → Except ε β} {b : β} :
    (x >>= f) = .ok b ↔ ∃ a, x = .ok a ∧ f a = .ok b := by
  cases x with
  | error e => simp [bind, Except.bind]
  | ok a => simp [bind, Except.bind]

theorem pure_eq_ok_iff {a b : α} : (pure a : Except ε α) = .ok b ↔ a = b := by
  simp [pure, Except.pure]

/-- A check of a list succeeds if it does for every member. -/
theorem forM_eq_ok_iff {check : α → Except ε Unit} {l : List α} :
    forM l check = .ok () ↔ ∀ a ∈ l, check a = .ok () := by
  induction l with
  | nil => simp [pure, Except.pure]
  | cons a l ih =>
    rw [List.forM_cons, bind_eq_ok_iff, List.forall_mem_cons, ← ih]
    exact ⟨fun ⟨_, ha, hl⟩ => ⟨ha, hl⟩, fun ⟨ha, hl⟩ => ⟨(), ha, hl⟩⟩

/-- A list is read if each member is, and the results stand in the same order. -/
theorem mapM_eq_ok_iff {read : α → Except ε β} {l : List α} {m : List β} :
    l.mapM read = .ok m ↔ List.Forall₂ (fun a b => read a = .ok b) l m := by
  induction l generalizing m with
  | nil => cases m <;> simp [pure, Except.pure]
  | cons a l ih =>
    rw [List.mapM_cons]
    simp only [bind_eq_ok_iff, pure_eq_ok_iff, ih]
    constructor
    · rintro ⟨b, hb, m, hm, rfl⟩
      exact .cons hb hm
    · rintro (_ | ⟨hb, hm⟩)
      exact ⟨_, hb, _, hm, rfl⟩

end Except

/-! ## Fixed headers and fields -/

/-- Whether a fixed header is for a name, in any case. -/
def FixedHeader.isFor (h : FixedHeader) (name : HeaderName) : Bool :=
  asciiLower h.name = name.text

/-- The values that a policy fixes for a name, in its order. -/
def Policy.fixedValues (p : Policy) (name : HeaderName) : List String :=
  (p.headers.filter (·.isFor name)).map (·.value)

theorem HeaderName.ext_iff_text {name other : HeaderName} :
    name = other ↔ name.text = other.text := by
  cases name
  cases other
  simp

theorem HeaderName.ofText?_eq_some_iff {s : String} {name : HeaderName} :
    HeaderName.ofText? s = some name ↔ isLegalName s = true ∧ asciiLower s = name.text := by
  unfold HeaderName.ofText?
  split
  · rename_i legal
    simp [legal, HeaderName.ext_iff_text]
  · rename_i illegal
    simp [illegal]

theorem FixedHeader.validate_eq_ok_iff {h : FixedHeader} {f : Field} :
    h.validate = .ok f ↔ isLegalName h.name = true ∧ isLegalValue h.value = true ∧
      h.isFor f.name = true ∧ h.value = f.value := by
  have read : h.validate = .ok f ↔ h.field? = some f := by
    unfold FixedHeader.validate
    cases h.field? <;> simp
  rw [read, FixedHeader.field?, Option.bind_eq_some_iff]
  simp only [HeaderName.ofText?_eq_some_iff, Option.ite_none_right_eq_some, Option.some.injEq,
    FixedHeader.isFor, decide_eq_true_eq]
  constructor
  · rintro ⟨name, ⟨legalName, named⟩, legalValue, rfl⟩
    exact ⟨legalName, legalValue, named, rfl⟩
  · rintro ⟨legalName, legalValue, named, valued⟩
    exact ⟨f.name, ⟨legalName, named⟩, legalValue, by rw [valued]⟩

/-- Fields that were read from fixed headers give each name the values of the headers for it. -/
theorem values_of_forall₂ {headers : List FixedHeader} {fields : List Field}
    (read : List.Forall₂ (fun h f => h.validate = .ok f) headers fields) (name : HeaderName) :
    (Headers.ofList fields).values name = (headers.filter (·.isFor name)).map (·.value) := by
  simp only [Headers.values, Headers.ofList]
  induction read with
  | nil => rfl
  | @cons h f headers fields hf _ ih =>
    obtain ⟨-, -, named, valued⟩ := FixedHeader.validate_eq_ok_iff.mp hf
    -- The header is for the name of its field, and so for no other.
    have same : h.isFor name = decide (f.name = name) := by
      simp only [FixedHeader.isFor, decide_eq_true_eq] at named ⊢
      simp [named, HeaderName.ext_iff_text]
    by_cases hn : f.name = name
    · simp [same, hn, valued, ih]
    · simp [same, hn, ih]

/-! ## Acceptance -/

section Accepted

variable {p : Policy} {fields : List Field}

/-- **The policies that are accepted**: every type is a legal value, and every fixed header has a
legal name and a legal value. The fields are those headers with their names made small. -/
theorem Policy.validate_eq_ok_iff :
    p.validate = .ok fields ↔ (∀ rule ∈ p.contentTypes, isLegalValue rule.type = true) ∧
      List.Forall₂ (fun h f => h.validate = .ok f) p.headers fields := by
  have types : p.contentTypes.forM TypeRule.validate = .ok () ↔
      ∀ rule ∈ p.contentTypes, isLegalValue rule.type = true := by
    rw [List.forM_eq_forM, forM_eq_ok_iff]
    simp [TypeRule.validate]
  unfold Policy.validate
  simp only [bind_eq_ok_iff, mapM_eq_ok_iff]
  constructor
  · rintro ⟨⟨⟩, checked, read⟩
    exact ⟨types.mp checked, read⟩
  · rintro ⟨legal, read⟩
    exact ⟨(), types.mpr legal, read⟩

/-- Whether a policy is accepted, and with which fields, does not hang on what it does with
preflight requests. -/
theorem Policy.validate_answerPreflight (p : Policy) (answer : Bool) :
    { p with answerPreflight := answer }.validate = p.validate := rfl

theorem Policy.isLegalValue_of_validate (accepted : p.validate = .ok fields) {rule : TypeRule}
    (listed : rule ∈ p.contentTypes) : isLegalValue rule.type = true :=
  (Policy.validate_eq_ok_iff.mp accepted).1 rule listed

/-- The fields of an accepted policy give each name the values that the policy fixes for it. -/
theorem Policy.values_of_validate (accepted : p.validate = .ok fields) (name : HeaderName) :
    (Headers.ofList fields).values name = p.fixedValues name :=
  values_of_forall₂ (Policy.validate_eq_ok_iff.mp accepted).2 name

/-- Each fixed header of an accepted policy is for some name. -/
theorem Policy.exists_name_of_validate (accepted : p.validate = .ok fields) {h : FixedHeader}
    (listed : h ∈ p.headers) : ∃ name, h.isFor name = true := by
  obtain ⟨-, read⟩ := Policy.validate_eq_ok_iff.mp accepted
  have named : List.Forall₂ (fun h f => (∃ name, h.isFor name = true) ∧ h.validate = .ok f)
      p.headers fields := read.imp fun h f hf =>
    ⟨⟨f.name, (FixedHeader.validate_eq_ok_iff.mp hf).2.2.1⟩, hf⟩
  exact ((List.forall₂_and_left _ _).mp named).1 h listed

theorem Policy.mem_fixedValues {name : HeaderName} {value : String} :
    value ∈ p.fixedValues name ↔ ∃ h ∈ p.headers, h.isFor name = true ∧ h.value = value := by
  simp [Policy.fixedValues, and_assoc]

end Accepted

end PreviewServer
