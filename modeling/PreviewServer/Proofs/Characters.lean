import PreviewServer.Proofs.ResponseHeaders

/-!
# Bytes and characters

Suffixes are compared byte by byte, and values are checked byte by byte. Both come to the same as
looking at characters. A byte with which characters begin is never found further inside one, so
where the bytes of a suffix begin in those of a path, a character of the path begins as well. And a
character outside ASCII has only bytes from 128 on, so that none of them is taken for a control.

## Main definitions

* `IsLegalValueChar`: the characters of a legal header value

## Main results

* `exists_lead_of_utf8EncodeChar`: where the bytes with which characters begin are found
* `exists_front_of_utf8_eq`: the bytes of a text end in those of another only between characters
* `utf8_suffix_iff`: suffixes by bytes and by characters
* `isLegalValue_iff_chars`: legal values by bytes and by characters
* `bytes_agree_with_characters`: both for rules, policies and values
-/

namespace PreviewServer

/-! ## Where characters begin -/

/-- **Only the first byte of a character is one with which characters begin.** -/
theorem exists_lead_of_utf8EncodeChar (c : Char) :
    ∃ lead rest, String.utf8EncodeChar c = lead :: rest ∧ lead.IsUTF8FirstByte ∧
      ∀ b ∈ rest, ¬ b.IsUTF8FirstByte := by
  obtain ⟨lead, rest, bytes⟩ :=
    List.exists_cons_of_ne_nil (String.utf8EncodeChar_ne_nil (c := c))
  have begins : ∀ (i : Nat) (inside : i < (lead :: rest).length),
      (lead :: rest)[i].IsUTF8FirstByte ↔ i = 0 := by
    rw [← bytes]
    exact fun i inside => UInt8.isUTF8FirstByte_getElem_utf8EncodeChar
  refine ⟨lead, rest, bytes, (begins 0 (by simp)).mpr rfl, ?_⟩
  intro b hb first
  obtain ⟨i, inside, rfl⟩ := List.mem_iff_getElem.mp hb
  have zero := (begins (i + 1) (by simpa using inside)).mp first
  omega

/-- Different texts have different bytes. -/
theorem utf8_injective {s t : String} (same : utf8 s = utf8 t) : s = t := by
  have arrays : s.toList.utf8Encode = t.toList.utf8Encode := congrArg List.toByteArray same
  rwa [String.utf8Encode_toList, String.utf8Encode_toList, String.toByteArray_inj] at arrays

/-- A text with any bytes begins with one with which characters begin. -/
theorem head_utf8_isUTF8FirstByte {s : String} {b : UInt8} {bs : Bytes} (bytes : utf8 s = b :: bs) :
    b.IsUTF8FirstByte := by
  rw [utf8] at bytes
  cases chars : s.toList with
  | nil =>
    rw [chars] at bytes
    cases bytes
  | cons c cs =>
    obtain ⟨lead, rest, first, begins, -⟩ := exists_lead_of_utf8EncodeChar c
    rw [chars, List.flatMap_cons, first] at bytes
    obtain ⟨rfl, -⟩ := List.cons.inj bytes
    exact begins

theorem utf8_ofList_cons (c : Char) (cs : List Char) :
    utf8 (String.ofList (c :: cs)) = String.utf8EncodeChar c ++ utf8 (String.ofList cs) := by
  simp [utf8]

/-- A text whose bytes do not begin with those of a character, but later, begins behind it. -/
theorem exists_behind_of_utf8EncodeChar_append {c : Char} {rest before : Bytes} {suffix : String}
    (later : before ≠ []) (ends : String.utf8EncodeChar c ++ rest = before ++ utf8 suffix) :
    ∃ behind, before = String.utf8EncodeChar c ++ behind ∧ rest = behind ++ utf8 suffix := by
  rcases List.append_eq_append_iff.mp ends with ⟨behind, split, tail⟩ | ⟨inner, split, tail⟩
  · exact ⟨behind, split, tail⟩
  · cases inner with
    | nil =>
      rw [List.append_nil] at split
      exact ⟨[], by rw [split, List.append_nil], tail.symm⟩
    | cons b inner =>
      -- The text would begin with a byte from inside the character.
      obtain ⟨a, before, rfl⟩ := List.exists_cons_of_ne_nil later
      obtain ⟨lead, rest', bytes, -, others⟩ := exists_lead_of_utf8EncodeChar c
      obtain ⟨-, rfl⟩ := List.cons.inj (bytes.symm.trans split)
      exact absurd (head_utf8_isUTF8FirstByte tail) (others b (by simp))

/-- **The bytes of a text end in those of another only between characters.** -/
theorem exists_front_of_utf8_eq {path suffix : String} {before : Bytes}
    (ends : utf8 path = before ++ utf8 suffix) :
    ∃ front : String, before = utf8 front ∧ path = front ++ suffix := by
  obtain ⟨cs, rfl⟩ : ∃ cs, path = String.ofList cs := ⟨path.toList, by simp⟩
  -- Along the characters of the path: as long as there is a byte before the suffix, the suffix
  -- begins behind the next character.
  induction cs generalizing before with
  | nil =>
    obtain ⟨rfl, empty⟩ := List.append_eq_nil_iff.mp ends.symm
    exact ⟨"", utf8_empty.symm, utf8_injective (by simpa using empty.symm)⟩
  | cons c cs ih =>
    rcases eq_or_ne before [] with rfl | later
    · exact ⟨"", utf8_empty.symm, utf8_injective (by simpa using ends)⟩
    · rw [utf8_ofList_cons] at ends
      obtain ⟨behind, rfl, tail⟩ := exists_behind_of_utf8EncodeChar_append later ends
      obtain ⟨front, rfl, path⟩ := ih tail
      refine ⟨String.ofList (c :: front.toList), ?_, ?_⟩
      · rw [utf8_ofList_cons, String.ofList_toList]
      · rw [← String.toList_inj] at path ⊢
        simpa using path

/-- **Suffixes by bytes are suffixes by characters.** -/
theorem utf8_suffix_iff {suffix path : String} :
    utf8 suffix <:+ utf8 path ↔ suffix.toList <:+ path.toList := by
  constructor
  · rintro ⟨before, ends⟩
    obtain ⟨front, -, rfl⟩ := exists_front_of_utf8_eq ends.symm
    rw [String.toList_append]
    exact List.suffix_append _ _
  · rintro ⟨front, ends⟩
    refine ⟨front.flatMap String.utf8EncodeChar, ?_⟩
    rw [utf8, utf8, ← List.flatMap_append, ends]

/-! ## Rules and policies -/

theorem TypeRule.matches_eq_isSuffixOf (rule : TypeRule) (path : String) :
    rule.matches path = rule.suffix.toList.isSuffixOf path.toList := by
  rw [Bool.eq_iff_iff, TypeRule.matches_iff, utf8_suffix_iff, List.isSuffixOf_iff_suffix]

/-- A rule applies to the paths that are put together from a text and its suffix. -/
theorem TypeRule.matches_iff_exists_front {rule : TypeRule} {path : String} :
    rule.matches path = true ↔ ∃ front : String, path = front ++ rule.suffix := by
  rw [TypeRule.matches_iff]
  constructor
  · rintro ⟨before, ends⟩
    obtain ⟨front, -, path⟩ := exists_front_of_utf8_eq ends.symm
    exact ⟨front, path⟩
  · rintro ⟨front, rfl⟩
    exact ⟨utf8 front, (utf8_append front rule.suffix).symm⟩

theorem Policy.contentTypeFor?_eq_find?_chars (p : Policy) (path : String) :
    p.contentTypeFor? path =
      (p.contentTypes.find? fun rule => rule.suffix.toList.isSuffixOf path.toList).map
        (·.type) := by
  simp only [Policy.contentTypeFor?, TypeRule.matches_eq_isSuffixOf]

/-! ## Values -/

/-- The characters of a legal value: tabs and everything from the space on except DEL. -/
def IsLegalValueChar (c : Char) : Prop :=
  c = '\t' ∨ (32 ≤ c.toNat ∧ c.toNat ≠ 127)

/-- A byte from 128 on is legal in a value. -/
theorem isLegalValueByte_of_le {b : UInt8} (large : 128 ≤ b) : isLegalValueByte b = true := by
  simp only [isLegalValueByte, Bool.or_eq_true, Bool.and_eq_true, decide_eq_true_eq, ne_eq,
    UInt8.le_iff_toNat_le, ← UInt8.toNat_inj, UInt8.reduceToNat] at large ⊢
  omega

/-- The bytes of a character are legal in a value exactly if the character is. -/
theorem utf8EncodeChar_legal_iff (c : Char) :
    (∀ b ∈ String.utf8EncodeChar c, isLegalValueByte b = true) ↔ IsLegalValueChar c := by
  by_cases ascii : c.toNat ≤ 127
  · have tab : c = '\t' ↔ c.toNat = 9 := Char.toNat_inj.symm
    have small : c.toNat % 2 ^ 8 = c.toNat := by omega
    rw [utf8EncodeChar_of_le ascii, List.forall_mem_singleton, IsLegalValueChar, tab]
    simp only [isLegalValueByte, Bool.or_eq_true, Bool.and_eq_true, decide_eq_true_eq, ne_eq,
      UInt8.le_iff_toNat_le, ← UInt8.toNat_inj, UInt8.reduceToNat, UInt8.toNat_ofNat', small]
  · have legal : ∀ b ∈ String.utf8EncodeChar c, isLegalValueByte b = true :=
      fun b hb => isLegalValueByte_of_le (le_of_mem_utf8EncodeChar (by omega) hb)
    exact iff_of_true legal (.inr (by omega))

/-- **Legal values by bytes are legal values by characters.** -/
theorem isLegalValue_iff_chars {s : String} :
    isLegalValue s = true ↔ ∀ c ∈ s.toList, IsLegalValueChar c := by
  simp only [isLegalValue, List.all_eq_true, utf8, List.mem_flatMap, ← utf8EncodeChar_legal_iff]
  constructor
  · intro legal c hc b hb
    exact legal b ⟨c, hc, hb⟩
  · rintro legal b ⟨c, hc, hb⟩
    exact legal c hc b hb

/-- **Bytes and characters agree.** A text ends in the bytes of another exactly if it ends in its
characters, and the bytes before such an end are those of a text of their own: no match begins
inside a character. So the type of a path is that of the first rule whose suffix ends it as a
sequence of characters. The bytes of a value are all legal exactly if its characters are. -/
theorem bytes_agree_with_characters :
    (∀ suffix path : String, utf8 suffix <:+ utf8 path ↔ suffix.toList <:+ path.toList) ∧
    (∀ (suffix path : String) (before : Bytes), utf8 path = before ++ utf8 suffix →
      ∃ front : String, before = utf8 front ∧ path = front ++ suffix) ∧
    (∀ (rule : TypeRule) (path : String),
      rule.matches path = true ↔ ∃ front : String, path = front ++ rule.suffix) ∧
    (∀ (p : Policy) (path : String), p.contentTypeFor? path =
      (p.contentTypes.find? fun rule => rule.suffix.toList.isSuffixOf path.toList).map (·.type)) ∧
    ∀ s : String, isLegalValue s = true ↔
      ∀ c ∈ s.toList, c = '\t' ∨ (32 ≤ c.toNat ∧ c.toNat ≠ 127) := by
  refine ⟨fun suffix path => utf8_suffix_iff, ?_,
    fun rule path => TypeRule.matches_iff_exists_front, Policy.contentTypeFor?_eq_find?_chars,
    fun s => isLegalValue_iff_chars⟩
  intro suffix path before ends
  exact exists_front_of_utf8_eq ends

/-- Two characters may share their last byte without one ending the other. A suffix outside ASCII is
found behind the bytes of a text, and a control above 127 is legal in a value, although DEL is
not. -/
theorem bytes_agree_with_characters_accents :
    ((utf8 "é").getLast? = (utf8 "©").getLast? ∧ ¬ utf8 "©" <:+ utf8 "/é") ∧
    (∃ front : String, utf8 "/caf" = utf8 front ∧ "/café" = front ++ "é") ∧
    TypeRule.matches ⟨"fé", "text/plain"⟩ "/café" = true ∧
    Policy.contentTypeFor? ⟨[], [⟨"©", "text/a"⟩, ⟨"é", "text/b"⟩], true⟩ "/é" = some "text/b" ∧
    isLegalValue "\té\u0080" = true ∧ isLegalValue "é\x7f" = false := by
  obtain ⟨suffixes, boundaries, rules, types, values⟩ := bytes_agree_with_characters
  refine ⟨⟨by decide, ?_⟩, boundaries "é" "/café" (utf8 "/caf") (by decide),
    (rules _ _).mpr ⟨"/ca", by decide⟩, ?_, (values _).mpr (by simp), ?_⟩
  · rw [suffixes]
    decide
  · rw [types]
    decide
  · rw [← Bool.not_eq_true, values]
    intro legal
    rcases legal '\x7f' (by simp) with tab | ⟨-, other⟩
    · cases tab
    · exact other rfl

end PreviewServer
