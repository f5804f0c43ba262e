import PreviewServer.Proofs.Validation

/-!
# The first offender

Validation goes through the types of a policy and then through its fixed headers, and ends with the
first of them that is not legal. Both passes are traversals with an early exit, so both are
described in the same way: the error of a traversal is that of the first member that has one.

## Main definitions

* `IsFirst`: the first member of a list with a property
* `LegalValue`, `LegalName`: legal header values and names, by their bytes

## Main results

* `forM_eq_error_iff`, `mapM_eq_error_iff`: the error of a traversal
* `isLegalValue_iff`, `isLegalName_iff`: the two checks decide legality
* `Policy.validate_eq_error_iff`: the error of a policy is that of its first offender
* `Policy.exists_fields_iff`: the policies without an offender are accepted
* `Policy.validation_exact`: what validation accepts, and what it reports
-/

namespace PreviewServer

/-! ## The first of a list -/

section First

variable {α : Type} {P : α → Prop} {a b : α} {l : List α}

/-- Whether `a` stands in a list as the first member with a property. -/
def IsFirst (P : α → Prop) (l : List α) (a : α) : Prop :=
  P a ∧ ∃ before after, l = before ++ a :: after ∧ ∀ b ∈ before, ¬ P b

theorem not_isFirst_nil : ¬ IsFirst P [] a := by
  rintro ⟨-, before, after, split, -⟩
  cases before <;> cases split

/-- The first member of all decides, if it has the property. -/
theorem isFirst_cons : IsFirst P (b :: l) a ↔ (P b ∧ a = b) ∨ (¬ P b ∧ IsFirst P l a) := by
  constructor
  · rintro ⟨holds, before, after, split, earlier⟩
    cases before with
    | nil =>
      obtain ⟨rfl, rfl⟩ := List.cons.inj split
      exact .inl ⟨holds, rfl⟩
    | cons c before =>
      obtain ⟨rfl, rfl⟩ := List.cons.inj split
      rw [List.forall_mem_cons] at earlier
      exact .inr ⟨earlier.1, holds, before, after, rfl, earlier.2⟩
  · rintro (⟨holds, rfl⟩ | ⟨fails, holds, before, after, rfl, earlier⟩)
    · exact ⟨holds, [], l, rfl, by simp⟩
    · exact ⟨holds, b :: before, after, rfl, List.forall_mem_cons.mpr ⟨fails, earlier⟩⟩

theorem IsFirst.mem (first : IsFirst P l a) : a ∈ l := by
  obtain ⟨-, before, after, rfl, -⟩ := first
  simp

theorem exists_isFirst_iff : (∃ a, IsFirst P l a) ↔ ∃ a ∈ l, P a := by
  induction l with
  | nil => simp [not_isFirst_nil]
  | cons b l ih =>
    simp only [isFirst_cons, exists_or, exists_and_left, exists_eq, and_true, ih,
      List.exists_mem_cons_iff]
    -- A later member is asked only where the first one has not the property.
    by_cases holds : P b <;> simp [holds]

end First

/-! ## Errors of traversals -/

section Errors

variable {ε α β : Type} {e : ε} {l : List α} {Offends : α → Prop} {report : α → ε}

theorem bind_eq_error_iff {x : Except ε α} {f : α → Except ε β} :
    (x >>= f) = .error e ↔ x = .error e ∨ ∃ a, x = .ok a ∧ f a = .error e := by
  cases x with
  | error e' => simp [bind, Except.bind]
  | ok a => simp [bind, Except.bind]

theorem exists_error_iff_not_ok {x : Except ε α} :
    (∃ e, x = .error e) ↔ ¬ ∃ a, x = .ok a := by
  cases x with
  | error e => exact ⟨fun _ => by simp, fun _ => ⟨e, rfl⟩⟩
  | ok a => simp

/-- What fails exactly on offenders succeeds exactly on the others. -/
theorem exists_ok_iff {run : α → Except ε β} {a : α}
    (fails : ∀ e, run a = .error e ↔ Offends a ∧ e = report a) :
    (∃ b, run a = .ok b) ↔ ¬ Offends a := by
  have offends : (∃ e, run a = .error e) ↔ Offends a := by
    simp only [fails, exists_and_left, exists_eq, and_true]
  rw [← offends, exists_error_iff_not_ok, not_not]

/-- A check of a list reports the first offender. -/
theorem forM_eq_error_iff {check : α → Except ε Unit}
    (fails : ∀ a e, check a = .error e ↔ Offends a ∧ e = report a) :
    forM l check = .error e ↔ ∃ a, IsFirst Offends l a ∧ e = report a := by
  induction l with
  | nil => simp [not_isFirst_nil, pure, Except.pure]
  | cons b l ih =>
    rw [List.forM_cons, bind_eq_error_iff, exists_and_right, exists_ok_iff (fails b), fails, ih]
    simp only [isFirst_cons, or_and_right, exists_or, and_assoc, exists_and_left, exists_eq_left]

/-- A list that is read up to the first offender ends with its report. -/
theorem mapM_eq_error_iff {read : α → Except ε β}
    (fails : ∀ a e, read a = .error e ↔ Offends a ∧ e = report a) :
    l.mapM read = .error e ↔ ∃ a, IsFirst Offends l a ∧ e = report a := by
  induction l with
  | nil => simp [not_isFirst_nil, pure, Except.pure]
  | cons b l ih =>
    have rest : ∀ c, (do let cs ← l.mapM read; pure (c :: cs)) = .error e ↔
        l.mapM read = .error e := by
      intro c
      rw [bind_eq_error_iff]
      simp [pure, Except.pure]
    rw [List.mapM_cons, bind_eq_error_iff]
    simp only [rest]
    rw [exists_and_right, exists_ok_iff (fails b), fails, ih]
    simp only [isFirst_cons, or_and_right, exists_or, and_assoc, exists_and_left, exists_eq_left]

end Errors

/-! ## Legal names and values -/

/-- A legal header value: each byte is a tab, or at least 32 and not 127. -/
def LegalValue (s : String) : Prop :=
  ∀ b ∈ utf8 s, b = 9 ∨ (32 ≤ b ∧ b ≠ 127)

/-- A legal header name: 1 to 65535 bytes, each a digit, an ASCII letter or one of fifteen marks. -/
def LegalName (s : String) : Prop :=
  (1 ≤ (utf8 s).length ∧ (utf8 s).length ≤ 65535) ∧
    ∀ b ∈ utf8 s, (48 ≤ b ∧ b ≤ 57) ∨ (65 ≤ b ∧ b ≤ 90) ∨ (97 ≤ b ∧ b ≤ 122) ∨
      b ∈ utf8 "!#$%&'*+-.^_`|~"

theorem isLegalValue_iff {s : String} : isLegalValue s = true ↔ LegalValue s := by
  simp [isLegalValue, isLegalValueByte, LegalValue]

theorem isLegalName_iff {s : String} : isLegalName s = true ↔ LegalName s := by
  have marks : tokenMarks = utf8 "!#$%&'*+-.^_`|~" := by decide
  simp [isLegalName, isTokenByte, LegalName, marks, or_assoc]

instance : DecidablePred LegalValue := fun _ => decidable_of_iff _ isLegalValue_iff

instance : DecidablePred LegalName := fun _ => decidable_of_iff _ isLegalName_iff

/-! ## Offenders -/

theorem TypeRule.validate_eq_error_iff (rule : TypeRule) (e : Error) :
    rule.validate = .error e ↔
      ¬ LegalValue rule.type ∧ e = .invalidHeader ("content-type: " ++ rule.type) := by
  unfold TypeRule.validate
  rw [← isLegalValue_iff]
  split
  · rename_i legal
    simp [legal]
  · rename_i illegal
    simp [illegal, eq_comm]

theorem FixedHeader.field?_eq_none_iff {h : FixedHeader} :
    h.field? = none ↔ ¬ (LegalName h.name ∧ LegalValue h.value) := by
  rw [← isLegalName_iff, ← isLegalValue_iff]
  unfold FixedHeader.field? HeaderName.ofText?
  by_cases legalName : isLegalName h.name = true
  · by_cases legalValue : isLegalValue h.value = true
    · simp [legalName, legalValue]
    · simp [legalName, legalValue]
  · simp [legalName]

/-- A fixed header fails as a whole, whether its name or its value is at fault. -/
theorem FixedHeader.validate_eq_error_iff (h : FixedHeader) (e : Error) :
    h.validate = .error e ↔
      ¬ (LegalName h.name ∧ LegalValue h.value) ∧
        e = .invalidHeader (h.name ++ ": " ++ h.value) := by
  rw [← FixedHeader.field?_eq_none_iff]
  unfold FixedHeader.validate
  cases h.field? with
  | none => simp [eq_comm]
  | some field => simp

section Policy

variable {p : Policy} {fields : List Field} {e : Error}

theorem forM_validate_eq_ok_iff {rules : List TypeRule} {u : Unit} :
    rules.forM TypeRule.validate = .ok u ↔ ∀ rule ∈ rules, LegalValue rule.type := by
  rw [List.forM_eq_forM, forM_eq_ok_iff]
  simp [TypeRule.validate, isLegalValue_iff]

/-- **The error of a policy is that of its first offender.** The types come first: as long as one of
them is illegal, no header counts. -/
theorem Policy.validate_eq_error_iff :
    p.validate = .error e ↔
      (∃ rule, IsFirst (fun rule => ¬ LegalValue rule.type) p.contentTypes rule ∧
        e = .invalidHeader ("content-type: " ++ rule.type)) ∨
      ((∀ rule ∈ p.contentTypes, LegalValue rule.type) ∧
        ∃ h, IsFirst (fun h => ¬ (LegalName h.name ∧ LegalValue h.value)) p.headers h ∧
          e = .invalidHeader (h.name ++ ": " ++ h.value)) := by
  have types := forM_eq_error_iff (e := e) (l := p.contentTypes) TypeRule.validate_eq_error_iff
  have headers := mapM_eq_error_iff (e := e) (l := p.headers) FixedHeader.validate_eq_error_iff
  unfold Policy.validate
  rw [bind_eq_error_iff, List.forM_eq_forM, types]
  simp only [← List.forM_eq_forM, forM_validate_eq_ok_iff, headers, exists_const]

/-- **The policies without an offender are accepted.** -/
theorem Policy.exists_fields_iff :
    (∃ fields, p.validate = .ok fields) ↔
      (∀ rule ∈ p.contentTypes, LegalValue rule.type) ∧
        ∀ h ∈ p.headers, LegalName h.name ∧ LegalValue h.value := by
  constructor
  · rintro ⟨fields, accepted⟩
    -- Where something is illegal there is a first offender, and validation ends with it.
    have legalTypes : ∀ rule ∈ p.contentTypes, LegalValue rule.type := by
      by_contra illegal
      push Not at illegal
      obtain ⟨rule, first⟩ := exists_isFirst_iff.mpr illegal
      rw [Policy.validate_eq_error_iff.mpr (.inl ⟨rule, first, rfl⟩)] at accepted
      cases accepted
    refine ⟨legalTypes, ?_⟩
    by_contra illegal
    simp only [not_forall, exists_prop] at illegal
    obtain ⟨h, first⟩ := exists_isFirst_iff.mpr illegal
    rw [Policy.validate_eq_error_iff.mpr (.inr ⟨legalTypes, h, first, rfl⟩)] at accepted
    cases accepted
  · rintro ⟨legalTypes, legalHeaders⟩
    cases outcome : p.validate with
    | ok fields => exact ⟨fields, rfl⟩
    | error e =>
      rcases Policy.validate_eq_error_iff.mp outcome with ⟨rule, first, -⟩ | ⟨-, h, first, -⟩
      · exact absurd (legalTypes rule first.mem) first.1
      · exact absurd (legalHeaders h first.mem) first.1

/-- The fields of an accepted policy are its headers, one by one, with their names made small. -/
theorem Policy.map_fields_of_validate (accepted : p.validate = .ok fields) :
    fields.map (fun f => (f.name.text, f.value)) =
      p.headers.map fun h => (asciiLower h.name, h.value) := by
  obtain ⟨-, read⟩ := Policy.validate_eq_ok_iff.mp accepted
  clear accepted
  generalize p.headers = headers at read ⊢
  induction read with
  | nil => rfl
  | cons first _ ih =>
    obtain ⟨-, -, named, valued⟩ := FixedHeader.validate_eq_ok_iff.mp first
    have name := of_decide_eq_true named
    rw [List.map_cons, List.map_cons, ih, name, valued]

/-- Of the rules of a policy, validation sees the types alone. -/
theorem Policy.validate_congr {p' : Policy} (headers : p'.headers = p.headers)
    (types : p'.contentTypes.map (·.type) = p.contentTypes.map (·.type)) :
    p'.validate = p.validate := by
  have check : ∀ rules : List TypeRule, forM rules TypeRule.validate =
      forM (rules.map (·.type)) fun type => TypeRule.validate ⟨"", type⟩ := by
    intro rules
    rw [List.forM_map]
    rfl
  unfold Policy.validate
  rw [List.forM_eq_forM, check, check, types, headers]

/-- **What validation accepts, and what it reports.** A policy is accepted exactly if its types, its
names and its values are legal. Then each header gives one field, in the order of the policy, with
the name made small and the value as it is. Otherwise the error shows the first illegal type, or
else the first header with an illegal name or an illegal value, as they are written. Neither
suffixes nor the answer to preflights count. -/
theorem Policy.validation_exact (p : Policy) :
    ((∃ fields, p.validate = .ok fields) ↔
      (∀ rule ∈ p.contentTypes, LegalValue rule.type) ∧
        ∀ h ∈ p.headers, LegalName h.name ∧ LegalValue h.value) ∧
    (∀ fields, p.validate = .ok fields →
      fields.map (fun f => (f.name.text, f.value)) =
        p.headers.map fun h => (asciiLower h.name, h.value)) ∧
    (∀ e, p.validate = .error e ↔
      (∃ rule, IsFirst (fun rule => ¬ LegalValue rule.type) p.contentTypes rule ∧
        e = .invalidHeader ("content-type: " ++ rule.type)) ∨
      ((∀ rule ∈ p.contentTypes, LegalValue rule.type) ∧
        ∃ h, IsFirst (fun h => ¬ (LegalName h.name ∧ LegalValue h.value)) p.headers h ∧
          e = .invalidHeader (h.name ++ ": " ++ h.value))) ∧
    (∀ p' : Policy, p'.headers = p.headers →
      p'.contentTypes.map (·.type) = p.contentTypes.map (·.type) → p'.validate = p.validate) := by
  exact ⟨Policy.exists_fields_iff, fun fields => Policy.map_fields_of_validate,
    fun e => Policy.validate_eq_error_iff, fun p' => Policy.validate_congr⟩

/-- A policy with one name in two spellings. -/
def spelledTwice : Policy := ⟨[⟨"X-Tag", "é"⟩, ⟨"x-TAG", ""⟩], [⟨"", "text/plain"⟩], false⟩

/-- A policy with two illegal types and an illegal header. -/
def offensivePolicy : Policy :=
  ⟨[⟨"x bad name", "1"⟩], [⟨".a", "\t"⟩, ⟨".b", "text/b\n"⟩, ⟨".c", "\x7f"⟩], true⟩

/-- Both spellings are accepted as one name, and the second type is the offender of a policy with
several; without its types the header is. -/
theorem Policy.validation_exact_offensive :
    (∃ fields, spelledTwice.validate = .ok fields ∧
      fields.map (fun f => (f.name.text, f.value)) = [("x-tag", "é"), ("x-tag", "")]) ∧
    offensivePolicy.validate = .error (.invalidHeader "content-type: text/b\n") ∧
    { offensivePolicy with contentTypes := [] }.validate =
      .error (.invalidHeader "x bad name: 1") := by
  refine ⟨?_, ?_, ?_⟩
  · obtain ⟨legal, shown, -⟩ := Policy.validation_exact spelledTwice
    obtain ⟨fields, accepted⟩ := legal.mpr (by decide)
    refine ⟨fields, accepted, (shown fields accepted).trans ?_⟩
    decide
  · refine ((Policy.validation_exact offensivePolicy).2.2.1 _).mpr (.inl ⟨⟨".b", "text/b\n"⟩, ?_⟩)
    exact ⟨⟨by decide, [⟨".a", "\t"⟩], [⟨".c", "\x7f"⟩], rfl, by decide⟩, rfl⟩
  · refine ((Policy.validation_exact _).2.2.1 _).mpr (.inr ⟨by decide, ⟨"x bad name", "1"⟩, ?_⟩)
    exact ⟨⟨by decide, [], [], rfl, by decide⟩, rfl⟩

end Policy

end PreviewServer
