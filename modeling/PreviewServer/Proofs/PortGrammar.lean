import PreviewServer.Proofs.CommandTrace

/-!
# The grammar of port arguments

An argument names a port if it is a numeral with at most one plus sign in front and its value, taken
without any bound, is a port. Zeros in front make no difference to the value. A machine reads the
digits in words of sixteen bits and stops where a product or a sum does not fit; it accepts the same
texts with the same values, so a value is never taken for the port that it leaves modulo 65536.

## Main definitions

* `Port.mul?`, `Port.add?`: arithmetic in sixteen bits that notices when a result does not fit
* `Port.ofTextInWords?`: reading a port with this arithmetic

## Main results

* `IsNumeral.append_zeros`: zeros in front of a numeral do not count
* `Port.readWords?_eq_readDecimal?`: words with overflow checks read what numbers with a limit do
* `choosePort_grammar`: which arguments select a port, which one, and what is printed otherwise
-/

namespace PreviewServer

/-! ## Numerals -/

/-- A text writes one number at most. -/
theorem IsSignedNumeral.unique {s : String} {m n : ℕ} (hm : IsSignedNumeral s m)
    (hn : IsSignedNumeral s n) : m = n := by
  -- Without its plus sign the text is one list of digits, and that has one value.
  have value : ∀ {k}, IsSignedNumeral s k → Nat.ofDigitChars 10 (dropPlus s.toList) 0 = k := by
    intro k hk
    exact (isNumeral_dropPlus_iff.mpr hk).2.2
  exact (value hm).symm.trans (value hn)

theorem IsNumeral.cons_zero {digits : List Char} {n : ℕ} (numeral : IsNumeral digits n) :
    IsNumeral ('0' :: digits) n := by
  obtain ⟨-, all, value⟩ := numeral
  refine ⟨List.cons_ne_nil _ _, ?_, ?_⟩
  · intro c hc
    rcases List.mem_cons.mp hc with rfl | hc
    · rfl
    · exact all c hc
  · rw [Nat.ofDigitChars_cons]
    exact value

/-- Zeros in front of a numeral do not count. -/
theorem IsNumeral.append_zeros {digits : List Char} {n : ℕ} (numeral : IsNumeral digits n)
    (zeros : ℕ) : IsNumeral (List.replicate zeros '0' ++ digits) n := by
  induction zeros with
  | zero => exact numeral
  | succ zeros ih =>
    rw [List.replicate_succ, List.cons_append]
    exact ih.cons_zero

/-- The text of a port writes it, with zeros in front and with a plus sign as well. -/
theorem isSignedNumeral_zeros_text (port : Port) (zeros : ℕ) {sign : String}
    (signed : sign = "" ∨ sign = "+") :
    IsSignedNumeral (sign ++ (String.ofList (List.replicate zeros '0') ++ port.text))
      port.toNat := by
  have digits : (String.ofList (List.replicate zeros '0') ++ port.text).toList =
      List.replicate zeros '0' ++ Nat.toDigits 10 port.toNat := by
    rw [String.toList_append, String.toList_ofList, Port.text, decimal, String.toList_ofList]
  refine ⟨_, ?_, (isNumeral_toDigits port.toNat).append_zeros zeros⟩
  rw [String.toList_append, digits]
  rcases signed with rfl | rfl
  · exact .inl rfl
  · exact .inr rfl

/-! ## Words of sixteen bits -/

/-- The result of an operation in sixteen bits, unless it overflowed. -/
def Port.unlessOverflow (overflow : Bool) (result : Port) : Option Port :=
  if overflow then none else some result

/-- The product of two ports, if it fits into sixteen bits. -/
def Port.mul? (a b : Port) : Option Port :=
  Port.unlessOverflow (a.toBitVec.umulOverflow b.toBitVec) (a * b)

/-- The sum of two ports, if it fits into sixteen bits. -/
def Port.add? (a b : Port) : Option Port :=
  Port.unlessOverflow (a.toBitVec.uaddOverflow b.toBitVec) (a + b)

/-- Appends the digits `cs` to the port read so far. The answer is `none` at the first character
that is no digit, and as soon as a product or a sum does not fit. -/
def Port.readWords? (value : Port) : List Char → Option Port
  | [] => some value
  | c :: cs =>
    (digitValue? c).bind fun d =>
      (value.mul? 10).bind fun tens =>
        (tens.add? d.toUInt16).bind fun sum => Port.readWords? sum cs

/-- The port that a text names, read in words of sixteen bits. -/
def Port.ofTextInWords? (s : String) : Option Port :=
  if (dropPlus s.toList).isEmpty then none else Port.readWords? 0 (dropPlus s.toList)

section Words

variable {a b c : Port}

/-- An operation that tells when it overflows gives the exact result or none. -/
theorem Port.unlessOverflow_eq_some_iff {overflow : Bool} {result : Port} {exact : ℕ}
    (tells : overflow = true ↔ 65536 ≤ exact) (wraps : result.toNat = exact % 65536) :
    Port.unlessOverflow overflow result = some c ↔ c.toNat = exact := by
  have small := c.toNat_lt
  rw [Port.unlessOverflow]
  split
  · rename_i overflowed
    have large := tells.mp overflowed
    simp only [reduceCtorEq, false_iff]
    omega
  · -- The result fits, and so there was nothing to wrap around.
    rename_i fits
    have within : exact < 65536 := Nat.lt_of_not_le (mt tells.mpr fits)
    rw [Option.some.injEq, ← UInt16.toNat_inj, wraps, Nat.mod_eq_of_lt within]
    exact eq_comm

theorem Port.mul?_eq_some_iff : a.mul? b = some c ↔ c.toNat = a.toNat * b.toNat :=
  Port.unlessOverflow_eq_some_iff decide_eq_true_iff (UInt16.toNat_mul a b)

theorem Port.add?_eq_some_iff : a.add? b = some c ↔ c.toNat = a.toNat + b.toNat :=
  Port.unlessOverflow_eq_some_iff decide_eq_true_iff (UInt16.toNat_add a b)

end Words

/-- One digit more: the two checks let a value through exactly if the whole of it is a port. -/
theorem Port.append?_eq_some_iff {value sum : Port} {d : ℕ} (digit : d ≤ 9) :
    ((value.mul? 10).bind fun tens => tens.add? d.toUInt16) = some sum ↔
      sum.toNat = 10 * value.toNat + d := by
  have small : (d.toUInt16).toNat = d :=
    UInt16.toNat_ofNat_of_lt' (Nat.lt_of_le_of_lt digit (by decide))
  have ten : (10 : Port).toNat = 10 := rfl
  rw [Option.bind_eq_some_iff]
  simp only [Port.mul?_eq_some_iff, Port.add?_eq_some_iff, small, ten]
  constructor
  · rintro ⟨tens, product, total⟩
    omega
  · intro total
    -- What fits with the digit fits without it.
    have fits : value.toNat * 10 < UInt16.size := Nat.lt_of_le_of_lt (by omega) sum.toNat_lt
    refine ⟨.ofNat (value.toNat * 10), UInt16.toNat_ofNat_of_lt' fits, ?_⟩
    rw [UInt16.toNat_ofNat_of_lt' fits]
    omega

/-- **Words with overflow checks read what numbers with a limit do.** -/
theorem Port.readWords?_eq_readDecimal? (value : Port) (cs : List Char) :
    Port.readWords? value cs = (readDecimal? 65535 value.toNat cs).map Nat.toUInt16 := by
  -- Along the digits; the word read so far stands for the number read so far.
  induction cs generalizing value with
  | nil => exact congrArg some UInt16.ofNat_toNat.symm
  | cons c cs ih =>
    rw [Port.readWords?, readDecimal?]
    cases read : digitValue? c with
    | none => rfl
    | some d =>
      have digit : d ≤ 9 := (digitValue?_eq_some_iff.mp read).1
      rw [Option.bind_some, Option.bind_some, ← Option.bind_assoc]
      by_cases within : 10 * value.toNat + d ≤ 65535
      · have total : (UInt16.ofNat (10 * value.toNat + d)).toNat = 10 * value.toNat + d :=
          UInt16.toNat_ofNat_of_lt' (Nat.lt_succ_of_le within)
        rw [(Port.append?_eq_some_iff digit).mpr total, Option.bind_some, if_pos within, ih, total]
      · -- No port has that value, so one of the two checks fails.
        have overflows : ((value.mul? 10).bind fun tens => tens.add? d.toUInt16) = none := by
          rw [Option.eq_none_iff_forall_ne_some]
          intro sum fits
          have total := (Port.append?_eq_some_iff digit).mp fits
          have small := sum.toNat_lt
          omega
        rw [overflows, if_neg within]
        rfl

theorem Port.ofTextInWords?_eq_ofText? (s : String) : Port.ofTextInWords? s = Port.ofText? s := by
  rw [Port.ofTextInWords?, Port.ofText?, decimalUpTo?]
  split
  · rfl
  · exact Port.readWords?_eq_readDecimal? 0 _

/-! ## Arguments -/

section Argument

variable {s : String} {n : ℕ}

theorem choosePort_of_isSignedNumeral (written : IsSignedNumeral s n) (within : n ≤ 65535) :
    choosePort (some s) = ⟨.ofNat n, ""⟩ := by
  apply choosePort_of_isNamedBy
  rw [Port.IsNamedBy, UInt16.toNat_ofNat_of_lt' (Nat.lt_succ_of_le within)]
  exact written

theorem choosePort_of_forall_not (unwritten : ∀ n ≤ 65535, ¬ IsSignedNumeral s n) :
    choosePort (some s) = ⟨8000, "Invalid port number. Using default port 8000.\n"⟩ := by
  rw [← invalidPortNotice_eq]
  apply choosePort_of_not_isNamedBy
  intro p named
  exact unwritten p.toNat (Nat.le_of_lt_succ p.toNat_lt) named

theorem printed_choosePort_eq_empty_iff :
    (choosePort (some s)).printed = "" ↔ ∃ n ≤ 65535, IsSignedNumeral s n := by
  constructor
  · intro quiet
    by_contra unwritten
    push Not at unwritten
    rw [choosePort_of_forall_not unwritten] at quiet
    exact absurd quiet (by decide)
  · rintro ⟨n, within, written⟩
    rw [choosePort_of_isSignedNumeral written within]

end Argument

/-- **The grammar of port arguments.** An argument is taken without a notice exactly if it is one or
more digits with at most one plus sign in front, and its value is at most 65535; then the port is
that value. Any other argument selects port 8000 with one notice, and so does a numeral with a
larger value, whatever it leaves modulo 65536. The text of a port selects it, with any number of
zeros and with or without a plus sign in front. Reading in words of sixteen bits with overflow
checks accepts a text as a port exactly if the text writes that number. -/
theorem choosePort_grammar (s : String) :
    ((choosePort (some s)).printed = "" ↔ ∃ n ≤ 65535, IsSignedNumeral s n) ∧
    (∀ n ≤ 65535, IsSignedNumeral s n → (choosePort (some s)).port.toNat = n) ∧
    ((∀ n ≤ 65535, ¬ IsSignedNumeral s n) →
      choosePort (some s) = ⟨8000, "Invalid port number. Using default port 8000.\n"⟩) ∧
    (∀ n > 65535, IsSignedNumeral s n →
      choosePort (some s) = ⟨8000, "Invalid port number. Using default port 8000.\n"⟩) ∧
    (∀ (port : Port) (zeros : ℕ) (sign : String), sign = "" ∨ sign = "+" →
      choosePort (some (sign ++ (String.ofList (List.replicate zeros '0') ++ port.text))) =
        ⟨port, ""⟩) ∧
    (∀ port : Port, Port.ofTextInWords? s = some port ↔ IsSignedNumeral s port.toNat) := by
  refine ⟨printed_choosePort_eq_empty_iff, ?_, choosePort_of_forall_not, ?_, ?_, ?_⟩
  · intro n within written
    rw [choosePort_of_isSignedNumeral written within]
    exact UInt16.toNat_ofNat_of_lt' (Nat.lt_succ_of_le within)
  · intro n above written
    apply choosePort_of_forall_not
    -- The value is the only one that the text has.
    intro m within written'
    have same := written.unique written'
    omega
  · intro port zeros sign signed
    exact choosePort_of_isNamedBy (isSignedNumeral_zeros_text port zeros signed)
  · intro port
    rw [Port.ofTextInWords?_eq_ofText?, Port.ofText?_eq_some_iff, Port.IsNamedBy]

/-- The port 8080 is read behind a plus sign and zeros. The number 73616, which leaves 8080 modulo
65536, is no port. -/
theorem choosePort_grammar_8080 :
    (choosePort (some "+0008080")).port.toNat = 8080 ∧ 73616 % 65536 = 8080 ∧
      choosePort (some "73616") =
        ⟨8000, "Invalid port number. Using default port 8000.\n"⟩ := by
  have padded : IsSignedNumeral "+0008080" 8080 :=
    ⟨"0008080".toList, .inr (by decide), by decide, List.all_eq_true.mp (by decide), by decide⟩
  have large : IsSignedNumeral "73616" 73616 :=
    ⟨"73616".toList, .inl rfl, by decide, List.all_eq_true.mp (by decide), by decide⟩
  exact ⟨(choosePort_grammar "+0008080").2.1 8080 (by decide) padded, by decide,
    (choosePort_grammar "73616").2.2.2.1 73616 (by decide) large⟩

end PreviewServer
