import PreviewServer.Text.Utf8

/-!
# Letter case

Only the letters `A` to `Z` have a small form here.

## Main definitions

* `asciiLower`: a text with its ASCII capitals made small
* `lowerByte`: the same for one byte

## Main results

* `asciiLower_asciiLower`: a text made small stays as it is
* `utf8_asciiLower`: on bytes, making small works byte by byte
-/

namespace PreviewServer

/-- A text with the letters `A` to `Z` replaced by `a` to `z`. -/
def asciiLower (s : String) : String :=
  String.ofList (s.toList.map Char.toLower)

/-- The small form of a byte that is an ASCII capital; other bytes stay. -/
def lowerByte (b : UInt8) : UInt8 :=
  if 65 ≤ b ∧ b ≤ 90 then b + 32 else b

theorem toNat_toLower (c : Char) :
    c.toLower.toNat = if 65 ≤ c.toNat ∧ c.toNat ≤ 90 then c.toNat + 32 else c.toNat := by
  have capital : (c.val ≥ 'A'.val ∧ c.val ≤ 'Z'.val) ↔ (65 ≤ c.toNat ∧ c.toNat ≤ 90) := by
    simp only [ge_iff_le, UInt32.le_iff_toNat_le]; rfl
  unfold Char.toLower
  split
  · rename_i h
    have bounds := capital.1 h
    rw [if_pos bounds]
    show (c.val + 32).toNat = c.toNat + 32
    rw [UInt32.toNat_add]
    show (c.toNat + 32) % 2 ^ 32 = _
    omega
  · rename_i h
    rw [if_neg (mt capital.2 h)]

theorem toLower_toLower (c : Char) : c.toLower.toLower = c.toLower := by
  apply Char.toNat_inj.1
  simp only [toNat_toLower]
  grind

theorem lowerByte_of_le {b : UInt8} (h : 128 ≤ b) : lowerByte b = b := by
  unfold lowerByte
  rw [if_neg]
  intro h'
  exact absurd (UInt8.le_trans h h'.2) (by decide)

/-- The bytes of a character outside ASCII are all at least 128. -/
theorem le_of_mem_utf8EncodeChar {c : Char} (h : 127 < c.toNat) {b : UInt8}
    (hb : b ∈ String.utf8EncodeChar c) : 128 ≤ b := by
  have h : ¬ c.val.toNat ≤ 127 := Nat.not_le.2 h
  revert b
  simp only [String.utf8EncodeChar, h, if_false]
  split
  · simp [UInt8.le_iff_toNat_le]; omega
  · split <;> simp [UInt8.le_iff_toNat_le] <;> omega

/-- An ASCII character is its own byte. -/
theorem utf8EncodeChar_of_le {c : Char} (h : c.toNat ≤ 127) :
    String.utf8EncodeChar c = [UInt8.ofNat c.toNat] := by
  simp only [String.utf8EncodeChar]
  exact if_pos h

theorem utf8EncodeChar_toLower (c : Char) :
    String.utf8EncodeChar c.toLower = (String.utf8EncodeChar c).map lowerByte := by
  by_cases h : c.toNat ≤ 127
  · have h' : c.toLower.toNat ≤ 127 := by rw [toNat_toLower]; split <;> omega
    rw [utf8EncodeChar_of_le h, utf8EncodeChar_of_le h', toNat_toLower]
    simp only [List.map_cons, List.map_nil, List.cons.injEq, and_true]
    apply UInt8.toNat_inj.1
    unfold lowerByte
    simp only [UInt8.le_iff_toNat_le]
    split <;> split <;> simp_all <;> omega
  · have same : c.toLower = c := by
      apply Char.toNat_inj.1
      rw [toNat_toLower, if_neg (by omega)]
    rw [same]
    symm
    rw [List.map_congr_left fun b hb =>
      lowerByte_of_le (le_of_mem_utf8EncodeChar (by omega) hb), List.map_id']

theorem asciiLower_asciiLower (s : String) : asciiLower (asciiLower s) = asciiLower s := by
  have : Char.toLower ∘ Char.toLower = Char.toLower := funext toLower_toLower
  simp [asciiLower, this]

theorem utf8_asciiLower (s : String) : utf8 (asciiLower s) = (utf8 s).map lowerByte := by
  simp [utf8, asciiLower, List.flatMap_map, List.map_flatMap, utf8EncodeChar_toLower]

end PreviewServer
