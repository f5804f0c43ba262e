/-!
# Decimal numerals

Numbers are written without leading zeros and read digit by digit under an upper limit, so that a
numeral is refused as soon as its value passes the limit.

## Main definitions

* `decimal`: the numeral of a number
* `decimalUpTo?`: the value of a numeral, if it is at most a limit

## Main results

* `digitValue?_eq_some_iff`: the digits are the characters `0` to `9`
-/

namespace PreviewServer

/-- The decimal numeral of a number. -/
def decimal (n : Nat) : String :=
  String.ofList (Nat.toDigits 10 n)

/-- The value of a character as a decimal digit, if it is one of `0` to `9`. -/
def digitValue? (c : Char) : Option Nat :=
  if 48 ≤ c.toNat ∧ c.toNat ≤ 57 then some (c.toNat - 48) else none

theorem digitValue?_eq_some_iff {c : Char} {d : Nat} :
    digitValue? c = some d ↔ d ≤ 9 ∧ c.toNat = 48 + d := by
  unfold digitValue?
  split <;> simp <;> omega

/-- Appends the digits `cs` to the value `value` read so far. The answer is `none` at the first
character that is no digit, and as soon as the value is above `limit`. -/
def readDecimal? (limit value : Nat) : List Char → Option Nat
  | [] => some value
  | c :: cs =>
    (digitValue? c).bind fun d =>
      if 10 * value + d ≤ limit then readDecimal? limit (10 * value + d) cs else none

/-- The value of a numeral of one or more digits, if it is at most `limit`. Leading zeros are
allowed. -/
def decimalUpTo? (limit : Nat) (cs : List Char) : Option Nat :=
  if cs.isEmpty then none else readDecimal? limit 0 cs

end PreviewServer
