import PreviewServer.Net.Address
import PreviewServer.Proofs.Numerals

/-!
# Addresses are read back from their texts

The canonical text of an address leaves things out: the zeros in front of a number, a run of zero
groups, and in one range the groups themselves, which are written as octets. Reading puts them all
back. So no two addresses have the same text, although there are three forms in version 6.

## Main results

* `octet?_toDigits`, `group?_toDigits`: the numbers in an address are read back
* `eq_take_zeros_drop`: what the two colons stand for
* `splitDoubleColon_intercalate`: where the two colons are found
* `IpAddress.ofText?_text`: an address is read back from its text
* `IpAddress.text_injective`: no two addresses have the same text
* `IpAddress.mem_text`: the characters of these texts
-/

namespace PreviewServer

/-- No two things that are read back from what is written of them are written alike. -/
theorem eq_of_read_back {α β : Type} {write : α → β} {read : β → Option α}
    (back : ∀ a, read (write a) = some a) {a b : α} (same : write a = write b) : a = b := by
  have reading := back a
  rw [same, back] at reading
  exact (Option.some.inj reading).symm

/-! ## Pieces -/

theorem mem_intercalate {sep c : Char} {pieces : List (List Char)}
    (hc : c ∈ [sep].intercalate pieces) : c = sep ∨ ∃ piece ∈ pieces, c ∈ piece := by
  induction pieces with
  | nil => cases hc
  | cons piece pieces ih =>
    cases pieces with
    | nil => exact .inr ⟨piece, by simp, by simpa using hc⟩
    | cons next pieces =>
      rw [List.intercalate_cons_cons, List.mem_append, List.mem_append, List.mem_singleton] at hc
      rcases hc with (hc | hc) | hc
      · exact .inr ⟨piece, by simp, hc⟩
      · exact .inl hc
      · rcases ih hc with hc | ⟨piece', among, hc⟩
        · exact .inl hc
        · exact .inr ⟨piece', List.mem_cons_of_mem _ among, hc⟩

/-! ## Numbers in addresses -/

theorem hexValue?_digitChar {d : Nat} (small : d < 16) : hexValue? d.digitChar = some d := by
  revert d
  decide

/-- The digits of a number are digits of its base. -/
theorem exists_digitChar_of_mem_toDigits {base n : Nat} (many : 1 < base) {c : Char}
    (hc : c ∈ Nat.toDigits base n) : ∃ d < base, c = d.digitChar := by
  induction n using Nat.base_induction base many with
  | single d small =>
    rw [Nat.toDigits_of_lt_base small, List.mem_singleton] at hc
    exact ⟨d, small, hc⟩
  | digit m d small pos ih =>
    rw [← Nat.toDigits_append_toDigits many pos small, List.mem_append,
      Nat.toDigits_of_lt_base small, List.mem_singleton] at hc
    rcases hc with hc | hc
    · exact ih hc
    · exact ⟨d, small, hc⟩

/-- A number begins with a zero only if it is zero. -/
theorem head?_toDigits_ne_zero {base n : Nat} (many : 1 < base) (pos : 0 < n) :
    (Nat.toDigits base n).head? ≠ some '0' := by
  induction n using Nat.base_induction base many with
  | single d small =>
    rw [Nat.toDigits_of_lt_base small]
    simp
    omega
  | digit m d small pos' ih =>
    rw [← Nat.toDigits_append_toDigits many pos' small, List.head?_append,
      Option.or_of_isSome (by simp [Nat.toDigits_ne_nil])]
    exact ih pos'

theorem foldlM_hexValue?_toDigits (n : Nat) :
    (Nat.toDigits 16 n).foldlM (fun value c => (hexValue? c).map (16 * value + ·)) 0 = some n := by
  induction n using Nat.base_induction 16 (by decide) with
  | single d small =>
    rw [Nat.toDigits_of_lt_base small]
    simp [hexValue?_digitChar small]
  | digit m d small pos ih =>
    rw [← Nat.toDigits_append_toDigits (by decide) pos small, List.foldlM_append, ih,
      Nat.toDigits_of_lt_base small]
    simp [hexValue?_digitChar small]

theorem group?_toDigits (g : UInt16) : group? (Nat.toDigits 16 g.toNat) = some g := by
  have length : (Nat.toDigits 16 g.toNat).length ≤ 4 :=
    (Nat.length_toDigits_le_iff (by decide) (by decide)).mpr g.toNat_lt
  rw [group?, if_pos ⟨Nat.length_toDigits_pos, length⟩, foldlM_hexValue?_toDigits]
  simp

theorem octet?_toDigits (x : UInt8) : octet? (Nat.toDigits 10 x.toNat) = some x := by
  have length : (Nat.toDigits 10 x.toNat).length ≤ 3 :=
    (Nat.length_toDigits_le_iff (by decide) (by decide)).mpr
      (Nat.lt_of_lt_of_le x.toNat_lt (by decide))
  have canonical : (Nat.toDigits 10 x.toNat).length = 1 ∨
      (Nat.toDigits 10 x.toNat).head? ≠ some '0' := by
    rcases Nat.eq_zero_or_pos x.toNat with zero | pos
    · rw [zero]
      exact .inl rfl
    · exact .inr (head?_toDigits_ne_zero (by decide) pos)
  have value : decimalUpTo? 255 (Nat.toDigits 10 x.toNat) = some x.toNat :=
    decimalUpTo?_eq_some_iff.mpr ⟨isNumeral_toDigits x.toNat, Nat.le_of_lt_succ x.toNat_lt⟩
  rw [octet?, if_pos ⟨length, canonical⟩, value]
  simp

theorem isSome_hexValue?_of_mem_toDigits {base n : Nat} (many : 1 < base) (few : base ≤ 16)
    {c : Char} (hc : c ∈ Nat.toDigits base n) : (hexValue? c).isSome = true := by
  obtain ⟨d, small, rfl⟩ := exists_digitChar_of_mem_toDigits many hc
  rw [hexValue?_digitChar (Nat.lt_of_lt_of_le small few)]
  rfl

/-! ## Version 4 -/

theorem Ipv4.toList_text (x : Ipv4) :
    x.text.toList =
      ['.'].intercalate ([x.a, x.b, x.c, x.d].map fun octet => Nat.toDigits 10 octet.toNat) := by
  rw [Ipv4.text, String.toList_intercalate]
  simp [decimal]

theorem Ipv4.mem_text {x : Ipv4} {c : Char} (hc : c ∈ x.text.toList) :
    c = '.' ∨ (hexValue? c).isSome = true := by
  rw [Ipv4.toList_text] at hc
  rcases mem_intercalate hc with rfl | ⟨piece, among, hc⟩
  · exact .inl rfl
  · obtain ⟨octet, -, rfl⟩ := List.mem_map.mp among
    exact .inr (isSome_hexValue?_of_mem_toDigits (by decide) (by decide) hc)

theorem Ipv4.colon_not_mem_text (x : Ipv4) : ':' ∉ x.text.toList := by
  intro colon
  rcases Ipv4.mem_text colon with ⟨⟨⟩⟩ | ⟨⟨⟩⟩

theorem Ipv4.ofChars?_text (x : Ipv4) : Ipv4.ofChars? x.text.toList = some x := by
  have free : ∀ piece ∈ [x.a, x.b, x.c, x.d].map fun octet => Nat.toDigits 10 octet.toNat,
      '.' ∉ piece := by
    intro piece among dot
    obtain ⟨octet, -, rfl⟩ := List.mem_map.mp among
    cases isSome_hexValue?_of_mem_toDigits (by decide) (by decide) dot
  rw [Ipv4.ofChars?, Ipv4.toList_text, List.splitOn_intercalate '.' free (by simp)]
  simp [octet?_toDigits]

/-- A text with a colon is no address of version 4. -/
theorem Ipv4.ofChars?_of_colon {cs : List Char} (colon : ':' ∈ cs) : Ipv4.ofChars? cs = none := by
  -- The colon is in one of the pieces, and that is no octet.
  have unread : ∀ {piece : List Char} {x : UInt8}, ':' ∈ piece → octet? piece ≠ some x := by
    intro piece x colon read
    rw [octet?, Option.ite_none_right_eq_some, Option.map_eq_some_iff] at read
    obtain ⟨-, n, read, -⟩ := read
    exact absurd ((decimalUpTo?_eq_some_iff.mp read).1.2.1 ':' colon) (by decide)
  rw [← @List.intercalate_splitOn _ cs _ _ '.'] at colon
  rcases mem_intercalate colon with ⟨⟨⟩⟩ | ⟨piece, among, colon⟩
  rw [Option.eq_none_iff_forall_ne_some]
  intro x read
  rw [Ipv4.ofChars?] at read
  split at read
  · rename_i a b c d pieces
    simp only [Option.bind_eq_bind, Option.bind_eq_some_iff] at read
    obtain ⟨_, ha, _, hb, _, hc, _, hd, -⟩ := read
    rw [pieces] at among
    simp only [List.mem_cons, List.not_mem_nil, or_false] at among
    rcases among with rfl | rfl | rfl | rfl
    · exact unread colon ha
    · exact unread colon hb
    · exact unread colon hc
    · exact unread colon hd
  · cases read

/-- A text without a dot is no address of version 4. -/
theorem Ipv4.ofChars?_of_notMem {cs : List Char} (free : '.' ∉ cs) : Ipv4.ofChars? cs = none := by
  rw [Ipv4.ofChars?, List.splitOn_eq_singleton free]

/-! ## Groups -/

theorem toList_groupsText (groups : List UInt16) :
    (groupsText groups).toList =
      [':'].intercalate (groups.map fun g => Nat.toDigits 16 g.toNat) := by
  rw [groupsText, String.toList_intercalate]
  simp [Function.comp_def]

section Groups

variable {groups : List UInt16} {c : Char}

theorem isSome_hexValue?_of_mem_group {piece : List Char}
    (among : piece ∈ groups.map fun g => Nat.toDigits 16 g.toNat) (hc : c ∈ piece) :
    (hexValue? c).isSome = true := by
  obtain ⟨g, -, rfl⟩ := List.mem_map.mp among
  exact isSome_hexValue?_of_mem_toDigits (by decide) (by decide) hc

theorem mem_groupsText (hc : c ∈ (groupsText groups).toList) :
    c = ':' ∨ (hexValue? c).isSome = true := by
  rw [toList_groupsText] at hc
  rcases mem_intercalate hc with rfl | ⟨piece, among, hc⟩
  · exact .inl rfl
  · exact .inr (isSome_hexValue?_of_mem_group among hc)

/-- Groups are read back one by one; none of them is taken for an address of version 4. -/
theorem groups?_toDigits (dotted : Bool) (groups : List UInt16) :
    groups? dotted (groups.map fun g => Nat.toDigits 16 g.toNat) = some groups := by
  have undotted : ∀ g : UInt16,
      (if dotted then Ipv4.ofChars? (Nat.toDigits 16 g.toNat) else none) = none := by
    intro g
    have free : '.' ∉ Nat.toDigits 16 g.toNat := by
      intro dot
      cases isSome_hexValue?_of_mem_toDigits (by decide) (by decide) dot
    rw [Ipv4.ofChars?_of_notMem free, ite_self]
  induction groups with
  | nil => rfl
  | cons g groups ih =>
    cases groups with
    | nil => simp [groups?, undotted, group?_toDigits]
    | cons h groups =>
      rw [List.map_cons] at ih
      rw [List.map_cons, List.map_cons, groups?, group?_toDigits, ih]
      · rfl
      · rintro ⟨⟩

theorem partGroups?_groupsText (dotted : Bool) (groups : List UInt16) :
    partGroups? dotted (groupsText groups).toList = some groups := by
  have free : ∀ piece ∈ groups.map fun g => Nat.toDigits 16 g.toNat, ':' ∉ piece := by
    intro piece among colon
    cases isSome_hexValue?_of_mem_group among colon
  cases groups with
  | nil => rfl
  | cons g groups =>
    have text : (groupsText (g :: groups)).toList.isEmpty = false := by
      obtain ⟨c, cs, digits⟩ := List.exists_cons_of_ne_nil (Nat.toDigits_ne_nil (n := g.toNat))
      rw [toList_groupsText, List.map_cons, digits, List.intercalate_cons_cons_left]
      rfl
    rw [partGroups?, text, if_neg Bool.false_ne_true, toList_groupsText,
      List.splitOn_intercalate ':' free (by simp), groups?_toDigits]

/-! ## The two colons -/

/-- A text without colons is passed over. -/
theorem splitDoubleColon_append {piece : List Char} (free : ':' ∉ piece) (rest : List Char) :
    splitDoubleColon (piece ++ rest) =
      (splitDoubleColon rest).map fun parts => (piece ++ parts.1, parts.2) := by
  induction piece with
  | nil => simp
  | cons c piece ih =>
    rw [List.mem_cons, not_or] at free
    rw [List.cons_append, splitDoubleColon, ih free.2, Option.map_map]
    · rfl
    · rintro rest' rfl
      exact absurd rfl free.1

/-- A single colon is passed over. -/
theorem splitDoubleColon_colon {rest : List Char} (single : rest.head? ≠ some ':') :
    splitDoubleColon (':' :: rest) =
      (splitDoubleColon rest).map fun parts => (':' :: parts.1, parts.2) := by
  rw [splitDoubleColon]
  rintro rest' - rfl
  exact single rfl

/-- **The two colons are found where they stand**: the pieces between single colons are passed
over. -/
theorem splitDoubleColon_intercalate {pieces : List (List Char)}
    (legible : ∀ piece ∈ pieces, piece ≠ [] ∧ ':' ∉ piece) (rest : List Char) :
    splitDoubleColon ([':'].intercalate pieces ++ rest) =
      (splitDoubleColon rest).map fun parts => ([':'].intercalate pieces ++ parts.1, parts.2) := by
  induction pieces with
  | nil => simp
  | cons piece pieces ih =>
    rw [List.forall_mem_cons] at legible
    cases pieces with
    | nil =>
      rw [List.intercalate_singleton]
      exact splitDoubleColon_append legible.1.2 rest
    | cons next pieces =>
      -- What follows the colon between two pieces is the beginning of the second, and no colon.
      have single : ([':'].intercalate (next :: pieces) ++ rest).head? ≠ some ':' := by
        obtain ⟨nonempty, free⟩ := legible.2 next (by simp)
        obtain ⟨c, cs, rfl⟩ := List.exists_cons_of_ne_nil nonempty
        rw [List.intercalate_cons_cons_left, List.cons_append, List.head?_cons]
        rintro ⟨⟩
        exact free (by simp)
      rw [List.intercalate_cons_cons, List.append_assoc, List.append_assoc,
        splitDoubleColon_append legible.1.2, List.singleton_append, splitDoubleColon_colon single,
        ih legible.2, Option.map_map, Option.map_map]
      simp [Function.comp_def]

/-- The zero groups in front of a list, and what follows them. -/
theorem eq_zeros_drop (groups : List UInt16) :
    groups = List.replicate (groups.takeWhile (· = 0)).length 0 ++
      groups.drop (groups.takeWhile (· = 0)).length := by
  have zeros : groups.take (groups.takeWhile (· = 0)).length =
      List.replicate (groups.takeWhile (· = 0)).length 0 := by
    rw [← List.prefix_iff_eq_take.mp (List.takeWhile_prefix _), List.eq_replicate_iff]
    refine ⟨rfl, ?_⟩
    intro g hg
    simpa using List.all_eq_true.mp List.all_takeWhile g hg
  rw [← zeros, List.take_append_drop]

/-- **What the two colons stand for** is a run of zero groups. -/
theorem eq_take_zeros_drop {groups : List UInt16} {start length : Nat}
    (run : longestZeroRun groups = (start, length)) :
    groups = groups.take start ++ (List.replicate length 0 ++ groups.drop (start + length)) := by
  induction groups generalizing start length with
  | nil =>
    obtain ⟨rfl, rfl⟩ := Prod.mk.inj run
    rfl
  | cons g groups ih =>
    simp only [longestZeroRun] at run
    split at run
    · -- the run that begins here
      obtain ⟨rfl, rfl⟩ := Prod.mk.inj run
      rw [List.take_zero, List.nil_append, Nat.zero_add]
      exact eq_zeros_drop (g :: groups)
    · -- a run further on
      obtain ⟨rfl, rfl⟩ := Prod.mk.inj run
      rw [List.take_succ_cons, List.cons_append, Nat.add_right_comm, List.drop_succ_cons, ← ih rfl]

end Groups

/-! ## Version 6 -/

/-- An address of the mapped range holds the octets of a version 4 address. -/
theorem Ipv6.groups_of_mapped? {x : Ipv6} {y : Ipv4} (mapped : x.mapped? = some y) :
    x.groups = List.replicate 5 0 ++ 0xffff :: y.groups := by
  have halves : ∀ g : UInt16, (g >>> 8).toUInt8.toUInt16 * 256 + g.toUInt8.toUInt16 = g := by
    intro g
    have small := g.toNat_lt
    rw [← UInt16.toNat_inj]
    simp [Nat.shiftRight_eq_div_pow]
    omega
  unfold Ipv6.mapped? at mapped
  split at mapped
  · rename_i hi lo groups
    obtain rfl := Option.some.inj mapped
    rw [groups, Ipv4.groups, halves, halves]
    rfl
  · cases mapped

/-- The pieces of groups between colons, as the two colons are looked for among them. -/
theorem splitDoubleColon_groupsText (groups : List UInt16) (rest : List Char) :
    splitDoubleColon ((groupsText groups).toList ++ rest) =
      (splitDoubleColon rest).map fun parts =>
        ((groupsText groups).toList ++ parts.1, parts.2) := by
  rw [toList_groupsText]
  apply splitDoubleColon_intercalate
  intro piece among
  refine ⟨?_, fun colon => ?_⟩
  · obtain ⟨g, -, rfl⟩ := List.mem_map.mp among
    exact Nat.toDigits_ne_nil
  · cases isSome_hexValue?_of_mem_group among colon

theorem Ipv6.ofGroups?_groups (x : Ipv6) : Ipv6.ofGroups? x.groups = some x :=
  dif_pos x.length_groups

/-- How a text with two colons is read: the groups on both sides, and zeros between them. -/
theorem Ipv6.ofChars?_of_splitDoubleColon {x : Ipv6} {cs before after : List Char}
    {front back : List UInt16} {zeros : Nat} (colons : splitDoubleColon cs = some (before, after))
    (readFront : partGroups? false before = some front)
    (readBack : partGroups? true after = some back) (some_zero : 0 < zeros)
    (groups : x.groups = front ++ (List.replicate zeros 0 ++ back)) :
    Ipv6.ofChars? cs = some x := by
  -- There are eight groups in all, so the number of zeros is told by the two sides.
  have length := x.length_groups
  rw [groups, List.length_append, List.length_append, List.length_replicate] at length
  have rest : 8 - front.length - back.length = zeros := by omega
  rw [Ipv6.ofChars?, colons]
  simp only [readFront, readBack, Option.bind_eq_bind, Option.bind_some]
  rw [if_pos (by omega), rest, List.append_assoc, ← groups, Ipv6.ofGroups?_groups]

/-- The first form: the octets of a version 4 address behind fixed groups. -/
theorem Ipv6.ofChars?_mapped {x : Ipv6} {y : Ipv4} (mapped : x.mapped? = some y) :
    Ipv6.ofChars? ("::ffff:" ++ y.text).toList = some x := by
  have pieces : ("ffff:" ++ y.text).toList.splitOn ':' = ["ffff".toList, y.text.toList] := by
    rw [String.toList_append]
    show ("ffff".toList ++ ':' :: y.text.toList).splitOn ':' = _
    rw [List.splitOn_append_cons_self_of_not_mem (by decide),
      List.splitOn_eq_singleton y.colon_not_mem_text]
  have back : partGroups? true ("ffff:" ++ y.text).toList = some (0xffff :: y.groups) := by
    have text : ("ffff:" ++ y.text).toList.isEmpty = false := by
      rw [String.toList_append]
      rfl
    have first : group? "ffff".toList = some 0xffff := by decide
    have last : groups? true [y.text.toList] = some y.groups := by
      simp [groups?, Ipv4.ofChars?_text]
    rw [partGroups?, text, if_neg Bool.false_ne_true, pieces, groups?, first, last]
    · rfl
    · rintro ⟨⟩
  have colons : splitDoubleColon ("::ffff:" ++ y.text).toList =
      some ([], ("ffff:" ++ y.text).toList) := by
    rw [String.toList_append, String.toList_append]
    show splitDoubleColon (':' :: ':' :: ("ffff:".toList ++ y.text.toList)) = _
    rw [splitDoubleColon]
  have groups : x.groups = [] ++ (List.replicate 5 0 ++ 0xffff :: y.groups) :=
    Ipv6.groups_of_mapped? mapped
  exact Ipv6.ofChars?_of_splitDoubleColon colons rfl back (by decide) groups

/-- The second form: two colons in place of a run of zero groups. -/
theorem Ipv6.ofChars?_short {x : Ipv6} {start length : Nat}
    (run : longestZeroRun x.groups = (start, length)) (long : 2 ≤ length) :
    Ipv6.ofChars? (groupsText (x.groups.take start) ++ "::" ++
      groupsText (x.groups.drop (start + length))).toList = some x := by
  refine Ipv6.ofChars?_of_splitDoubleColon ?_ (partGroups?_groupsText _ _)
    (partGroups?_groupsText _ _) (by omega) (eq_take_zeros_drop run)
  rw [String.toList_append, String.toList_append, List.append_assoc, splitDoubleColon_groupsText]
  simp [splitDoubleColon]

/-- The third form: all eight groups. -/
theorem Ipv6.ofChars?_full (x : Ipv6) : Ipv6.ofChars? (groupsText x.groups).toList = some x := by
  have none : splitDoubleColon (groupsText x.groups).toList = none := by
    rw [← List.append_nil (groupsText x.groups).toList, splitDoubleColon_groupsText]
    rfl
  rw [Ipv6.ofChars?, none]
  simp [partGroups?_groupsText, Ipv6.ofGroups?_groups]

/-- The three forms of the text of a version 6 address. -/
theorem Ipv6.text_cases (x : Ipv6) :
    (∃ y, x.mapped? = some y ∧ x.text = "::ffff:" ++ y.text) ∨
    (∃ start length, longestZeroRun x.groups = (start, length) ∧ 2 ≤ length ∧
      x.text = groupsText (x.groups.take start) ++ "::" ++
        groupsText (x.groups.drop (start + length))) ∨
    x.text = groupsText x.groups := by
  unfold Ipv6.text
  cases x.mapped? with
  | some y => exact .inl ⟨y, rfl, rfl⟩
  | none =>
    rcases longestZeroRun x.groups with ⟨start, length⟩
    by_cases long : 2 ≤ length
    · exact .inr (.inl ⟨start, length, rfl, long, if_pos long⟩)
    · exact .inr (.inr (if_neg long))

theorem Ipv6.ofChars?_text (x : Ipv6) : Ipv6.ofChars? x.text.toList = some x := by
  rcases x.text_cases with ⟨y, mapped, text⟩ | ⟨start, length, run, long, text⟩ | text
  · rw [text, Ipv6.ofChars?_mapped mapped]
  · rw [text, Ipv6.ofChars?_short run long]
  · rw [text, Ipv6.ofChars?_full]

/-- There is a colon in every text of a version 6 address. -/
theorem Ipv6.colon_mem_text (x : Ipv6) : ':' ∈ x.text.toList := by
  rcases x.text_cases with ⟨y, -, text⟩ | ⟨start, length, -, -, text⟩ | text
  · rw [text, String.toList_append]
    exact List.mem_append_left _ (by decide)
  · rw [text, String.toList_append, String.toList_append]
    exact List.mem_append_left _ (List.mem_append_right _ (by decide))
  · have length := x.length_groups
    rw [text, toList_groupsText]
    match x.groups, length with
    | g :: h :: groups, _ => simp [List.intercalate_cons_cons]

theorem Ipv6.mem_text {x : Ipv6} {c : Char} (hc : c ∈ x.text.toList) :
    c = '.' ∨ c = ':' ∨ (hexValue? c).isSome = true := by
  have fixed : ∀ c ∈ "::ffff:".toList, c = ':' ∨ (hexValue? c).isSome = true := by
    intro c hc
    have marks : c = ':' ∨ c = 'f' ∨ c = ':' := by simpa using hc
    rcases marks with rfl | rfl | rfl
    · exact .inl rfl
    · exact .inr rfl
    · exact .inl rfl
  rcases x.text_cases with ⟨y, -, text⟩ | ⟨start, length, -, -, text⟩ | text
  · rw [text, String.toList_append, List.mem_append] at hc
    rcases hc with hc | hc
    · exact .inr (fixed c hc)
    · rcases Ipv4.mem_text hc with dot | digit
      · exact .inl dot
      · exact .inr (.inr digit)
  · rw [text, String.toList_append, String.toList_append, List.mem_append, List.mem_append] at hc
    rcases hc with (hc | hc) | hc
    · exact .inr (mem_groupsText hc)
    · exact .inr (fixed c (List.mem_append_left "ffff:".toList hc))
    · exact .inr (mem_groupsText hc)
  · rw [text] at hc
    exact .inr (mem_groupsText hc)

/-! ## Both versions -/

/-- **An address is read back from its text.** -/
theorem IpAddress.ofText?_text (x : IpAddress) : IpAddress.ofText? x.text = some x := by
  cases x with
  | v4 x => simp [IpAddress.text, IpAddress.ofText?, Ipv4.ofChars?_text]
  | v6 x =>
    simp [IpAddress.text, IpAddress.ofText?, Ipv4.ofChars?_of_colon x.colon_mem_text,
      Ipv6.ofChars?_text]

/-- **No two addresses have the same text.** -/
theorem IpAddress.text_injective {x y : IpAddress} (same : x.text = y.text) : x = y :=
  eq_of_read_back IpAddress.ofText?_text same

/-- The characters of the text of an address: hexadecimal digits, dots and colons. -/
theorem IpAddress.mem_text {x : IpAddress} {c : Char} (hc : c ∈ x.text.toList) :
    c = '.' ∨ c = ':' ∨ (hexValue? c).isSome = true := by
  cases x with
  | v4 x =>
    rcases Ipv4.mem_text hc with dot | digit
    · exact .inl dot
    · exact .inr (.inr digit)
  | v6 x => exact Ipv6.mem_text hc

end PreviewServer
