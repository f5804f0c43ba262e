import PreviewServer.Net.Port

/-!
# Reading numerals

A numeral is read digit by digit, and refused as soon as its value passes the limit. The value of a
numeral never falls while digits are appended, so the early check refuses nothing that the whole
value would let through, and lets nothing through that the whole value would refuse.

## Main definitions

* `IsNumeral`: the numerals of a number, with any number of zeros in front
* `IsSignedNumeral`: the texts that write a number, with or without a plus sign
* `Port.IsNamedBy`: the texts that name a port

## Main results

* `decimalUpTo?_eq_some_iff`: reading accepts exactly the numerals of numbers up to the limit
* `decimalUpTo?_decimal`: a number is read back from its own numeral
* `Port.ofText?_eq_some_iff`, `Port.ofText?_text`: the same for ports
* `choosePort_of_isNamedBy`, `choosePort_of_not_isNamedBy`: the port that an argument selects
* `suggestedPort_eq_some_iff`: the port to try next is the successor
-/

namespace PreviewServer

/-- Whether digits write a number: one or more of them, with that decimal value. -/
def IsNumeral (digits : List Char) (n : Nat) : Prop :=
  digits ≠ [] ∧ (∀ c ∈ digits, c.isDigit = true) ∧ Nat.ofDigitChars 10 digits 0 = n

/-! ## Digits -/

theorem digitValue?_of_isDigit {c : Char} (digit : c.isDigit = true) :
    digitValue? c = some (c.toNat - '0'.toNat) := by
  have bounds := Char.isDigit_iff_toNat.mp digit
  exact if_pos bounds

theorem isDigit_of_digitValue? {c : Char} {d : Nat} (digit : digitValue? c = some d) :
    c.isDigit = true := by
  obtain ⟨small, value⟩ := digitValue?_eq_some_iff.mp digit
  rw [Char.isDigit_iff_toNat]
  show 48 ≤ c.toNat ∧ c.toNat ≤ 57
  omega

theorem le_ofDigitChars (digits : List Char) (value : Nat) :
    value ≤ Nat.ofDigitChars 10 digits value := by
  induction digits generalizing value with
  | nil => simp
  | cons c digits ih =>
    rw [Nat.ofDigitChars_cons]
    exact Nat.le_trans (by omega) (ih _)

/-! ## Reading -/

/-- Reading from a value within the limit succeeds exactly if all characters are digits and the
whole value is within the limit. -/
theorem readDecimal?_eq_some_iff {limit value n : Nat} {cs : List Char} (within : value ≤ limit) :
    readDecimal? limit value cs = some n ↔
      (∀ c ∈ cs, c.isDigit = true) ∧ Nat.ofDigitChars 10 cs value = n ∧ n ≤ limit := by
  -- Along the digits; the value read so far grows, and stays within the limit as long as reading
  -- goes on.
  induction cs generalizing value with
  | nil =>
    simp only [readDecimal?, Option.some.injEq, Nat.ofDigitChars_nil]
    constructor
    · rintro rfl
      exact ⟨by simp, rfl, within⟩
    · exact fun h => h.2.1
  | cons c cs ih =>
    rw [readDecimal?, List.forall_mem_cons, Nat.ofDigitChars_cons]
    by_cases digit : c.isDigit = true
    · rw [digitValue?_of_isDigit digit, Option.bind_some]
      split
      · rename_i below
        rw [ih below]
        simp [digit]
      · -- The value is above the limit already, and it does not come down again.
        rename_i above
        have rises := le_ofDigitChars cs (10 * value + (c.toNat - '0'.toNat))
        constructor
        · intro h
          cases h
        · rintro ⟨-, rfl, within'⟩
          omega
    · -- Reading stops here, and the characters are not all digits.
      have none : digitValue? c = none := by
        rw [Option.eq_none_iff_forall_ne_some]
        exact fun d hd => digit (isDigit_of_digitValue? hd)
      simp [none, digit]

/-- **Reading accepts exactly the numerals of the numbers up to the limit.** -/
theorem decimalUpTo?_eq_some_iff {limit n : Nat} {cs : List Char} :
    decimalUpTo? limit cs = some n ↔ IsNumeral cs n ∧ n ≤ limit := by
  unfold decimalUpTo? IsNumeral
  cases cs with
  | nil => simp
  | cons c cs =>
    rw [List.isEmpty_cons, if_neg Bool.false_ne_true, readDecimal?_eq_some_iff (Nat.zero_le _)]
    simp [and_assoc]

theorem isNumeral_toDigits (n : Nat) : IsNumeral (Nat.toDigits 10 n) n :=
  ⟨Nat.toDigits_ne_nil, fun _ hc => Nat.isDigit_of_mem_toDigits (by decide) (by decide) hc,
    Nat.ofDigitChars_ten_toDigits⟩

theorem decimalUpTo?_decimal {limit n : Nat} (within : n ≤ limit) :
    decimalUpTo? limit (decimal n).toList = some n := by
  rw [decimal, String.toList_ofList]
  exact decimalUpTo?_eq_some_iff.mpr ⟨isNumeral_toDigits n, within⟩

/-! ## Signs -/

/-- Whether a text writes a number: one or more digits with that value, and at most one plus sign in
front of them. -/
def IsSignedNumeral (s : String) (n : Nat) : Prop :=
  ∃ digits, (s.toList = digits ∨ s.toList = '+' :: digits) ∧ IsNumeral digits n

theorem isNumeral_dropPlus_iff {s : String} {n : Nat} :
    IsNumeral (dropPlus s.toList) n ↔ IsSignedNumeral s n := by
  -- A plus sign is no digit, so a text that begins with one is no numeral as it stands.
  have plus : ∀ rest, ¬ IsNumeral ('+' :: rest) n := by
    rintro rest ⟨-, digits, -⟩
    exact absurd (digits '+' (by simp)) (by decide)
  unfold IsSignedNumeral
  generalize s.toList = cs
  constructor
  · intro numeral
    unfold dropPlus at numeral
    split at numeral
    · exact ⟨_, .inr rfl, numeral⟩
    · exact ⟨_, .inl rfl, numeral⟩
  · rintro ⟨digits, rfl | rfl, numeral⟩
    · unfold dropPlus
      split
      · exact absurd numeral (plus _)
      · exact numeral
    · exact numeral

/-! ## Ports -/

/-- Whether a text names a port: it writes the number of the port. -/
def Port.IsNamedBy (p : Port) (s : String) : Prop :=
  IsSignedNumeral s p.toNat

/-- **A text is read as a port exactly if it names it.** -/
theorem Port.ofText?_eq_some_iff {s : String} {p : Port} :
    Port.ofText? s = some p ↔ p.IsNamedBy s := by
  unfold Port.ofText? Port.IsNamedBy
  rw [Option.map_eq_some_iff, ← isNumeral_dropPlus_iff]
  simp only [decimalUpTo?_eq_some_iff]
  constructor
  · rintro ⟨n, ⟨numeral, within⟩, rfl⟩
    rwa [Nat.toUInt16_eq, UInt16.toNat_ofNat_of_lt' (Nat.lt_succ_of_le within)]
  · intro numeral
    exact ⟨p.toNat, ⟨numeral, Nat.le_of_lt_succ p.toNat_lt⟩, UInt16.ofNat_toNat⟩

theorem Port.ofText?_text (p : Port) : Port.ofText? p.text = some p := by
  rw [Port.ofText?_eq_some_iff]
  exact ⟨_, .inl (String.toList_ofList ..), isNumeral_toDigits p.toNat⟩

theorem choosePort_of_isNamedBy {argument : String} {p : Port} (named : p.IsNamedBy argument) :
    choosePort (some argument) = ⟨p, ""⟩ := by
  simp only [choosePort, Port.ofText?_eq_some_iff.mpr named]

theorem choosePort_of_not_isNamedBy {argument : String}
    (unnamed : ∀ p : Port, ¬ p.IsNamedBy argument) :
    choosePort (some argument) = ⟨defaultPort, invalidPortNotice⟩ := by
  have none : Port.ofText? argument = none := by
    rw [Option.eq_none_iff_forall_ne_some]
    exact fun p hp => unnamed p (Port.ofText?_eq_some_iff.mp hp)
  simp only [choosePort, none]

/-- The port to try after one that is taken is the next one, and the last port has none. -/
theorem suggestedPort_eq_some_iff {p next : Port} :
    suggestedPort p = some next ↔ next.toNat = p.toNat + 1 := by
  -- The sum does not wrap around: the last port is caught before it is formed.
  have small := p.toNat_lt
  have small' := next.toNat_lt
  unfold suggestedPort
  split
  · rename_i below
    rw [Option.some.injEq, ← UInt16.toNat_inj, UInt16.toNat_add]
    simp only [UInt16.toNat_one]
    omega
  · simp only [reduceCtorEq, false_iff]
    omega

end PreviewServer
