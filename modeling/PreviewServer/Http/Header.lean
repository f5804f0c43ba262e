import PreviewServer.Text.Case

/-!
# Header fields

Names of header fields are compared without regard to case, so a name is kept in its lower-case
form. A message has a list of fields in which a name may occur more than once.

## Main definitions

* `HeaderName`: a legal name in lower case
* `isLegalValue`, `isPlainValue`: two classes of values; a plain one holds ASCII characters only
* `Headers`: the fields of a message, seen through `Headers.values`
* `Headers.set`: replaces all values of a name by one

## Main results

* `Headers.values_set`: what `set` does to the values of every name
-/

namespace PreviewServer

/-! ## Names -/

/-- The marks that a token may hold beside letters and digits. -/
def tokenMarks : List UInt8 :=
  [33, 35, 36, 37, 38, 39, 42, 43, 45, 46, 94, 95, 96, 124, 126]

/-- The marks are the characters that the standard lists. -/
example : tokenMarks = utf8 "!#$%&'*+-.^_`|~" := by decide

/-- The bytes of a token: ASCII letters, digits and fifteen marks. -/
def isTokenByte (b : UInt8) : Bool :=
  (48 ≤ b && b ≤ 57) || (65 ≤ b && b ≤ 90) || (97 ≤ b && b ≤ 122) || tokenMarks.contains b

/-- Whether a text is a header name in any case: 1 to 65535 bytes, all of them token bytes. -/
def isLegalName (s : String) : Bool :=
  1 ≤ (utf8 s).length && (utf8 s).length ≤ 65535 && (utf8 s).all isTokenByte

theorem isTokenByte_lowerByte {b : UInt8} (h : isTokenByte b = true) :
    isTokenByte (lowerByte b) = true := by
  unfold lowerByte
  split
  · rename_i hb
    have : 97 ≤ b + 32 ∧ b + 32 ≤ 122 := by
      simp only [UInt8.le_iff_toNat_le, UInt8.toNat_add] at hb ⊢
      simp at hb ⊢
      omega
    simp [isTokenByte, this]
  · exact h

theorem isLegalName_asciiLower {s : String} (h : isLegalName s = true) :
    isLegalName (asciiLower s) = true := by
  simp only [isLegalName, utf8_asciiLower, List.length_map, Bool.and_eq_true, List.all_map,
    List.all_eq_true, Function.comp_apply] at h ⊢
  exact ⟨h.1, fun b hb => isTokenByte_lowerByte (h.2 b hb)⟩

/-- A legal header name in lower case. Two names are the same field name exactly if they are equal
as values of this type. -/
structure HeaderName where
  text : String
  legal : isLegalName text = true
  lower : asciiLower text = text
  deriving DecidableEq

/-- The header name that a text spells, in any case. -/
def HeaderName.ofText? (s : String) : Option HeaderName :=
  if h : isLegalName s = true then
    some ⟨asciiLower s, isLegalName_asciiLower h, asciiLower_asciiLower s⟩
  else none

namespace HeaderName

/-- The media type of the body. -/
def contentType : HeaderName := ⟨"content-type", by decide, by decide⟩

/-- The number of bytes of the body. -/
def contentLength : HeaderName := ⟨"content-length", by decide, by decide⟩

/-- The bytes that a partial answer holds. -/
def contentRange : HeaderName := ⟨"content-range", by decide, by decide⟩

/-- The units in which parts may be asked for. -/
def acceptRanges : HeaderName := ⟨"accept-ranges", by decide, by decide⟩

/-- When a resource last changed. -/
def lastModified : HeaderName := ⟨"last-modified", by decide, by decide⟩

/-- The methods that a resource admits. -/
def allow : HeaderName := ⟨"allow", by decide, by decide⟩

/-- Where a resource is to be found. -/
def location : HeaderName := ⟨"location", by decide, by decide⟩

/-- The part of a resource that is asked for. -/
def range : HeaderName := ⟨"range", by decide, by decide⟩

/-- Asks for a resource only if it changed since a date. -/
def ifModifiedSince : HeaderName := ⟨"if-modified-since", by decide, by decide⟩

/-- Asks for a resource only if it did not change since a date. -/
def ifUnmodifiedSince : HeaderName := ⟨"if-unmodified-since", by decide, by decide⟩

/-- When a message was sent. -/
def date : HeaderName := ⟨"date", by decide, by decide⟩

/-- What becomes of the connection after a message. -/
def connection : HeaderName := ⟨"connection", by decide, by decide⟩

end HeaderName

/-! ## Values -/

/-- The bytes of a legal value: tabs and everything from the space on except DEL. -/
def isLegalValueByte (b : UInt8) : Bool :=
  b = 9 || (32 ≤ b && b ≠ 127)

/-- The bytes of a plain value: tabs and the visible ASCII characters with the space. -/
def isPlainValueByte (b : UInt8) : Bool :=
  b = 9 || (32 ≤ b && b ≤ 126)

/-- Whether a text is a legal header value. -/
def isLegalValue (s : String) : Bool :=
  (utf8 s).all isLegalValueByte

/-- Whether a text is a header value in ASCII. -/
def isPlainValue (s : String) : Bool :=
  (utf8 s).all isPlainValueByte

/-! ## Fields -/

/-- A header field. -/
structure Field where
  name : HeaderName
  value : String
  deriving DecidableEq

/-- The header fields of a message, in order; a name may occur more than once. -/
structure Headers where
  fields : List Field
  deriving DecidableEq

namespace Headers

/-- No fields. -/
def empty : Headers := ⟨[]⟩

/-- The fields of a list. -/
def ofList (fields : List Field) : Headers := ⟨fields⟩

/-- All values of a name, in order. -/
def values (h : Headers) (name : HeaderName) : List String :=
  (h.fields.filter (·.name = name)).map (·.value)

/-- The first value of a name. -/
def get? (h : Headers) (name : HeaderName) : Option String :=
  (h.values name).head?

/-- The fields without those of a name. -/
def erase (h : Headers) (name : HeaderName) : Headers :=
  ⟨h.fields.filter (·.name ≠ name)⟩

/-- The fields with one value for a name in place of all it had. -/
def set (h : Headers) (name : HeaderName) (value : String) : Headers :=
  ⟨(h.erase name).fields ++ [⟨name, value⟩]⟩

@[simp] theorem values_empty (name : HeaderName) : empty.values name = [] := rfl

@[simp] theorem values_erase (h : Headers) (name other : HeaderName) :
    (h.erase name).values other = if other = name then [] else h.values other := by
  simp only [values, erase, List.filter_filter]
  split
  · rename_i heq
    subst heq
    simp
  · rename_i hne
    congr 1
    apply List.filter_congr
    intro f _
    by_cases hf : f.name = other <;> simp [hf, hne]

@[simp] theorem values_set (h : Headers) (name other : HeaderName) (value : String) :
    (h.set name value).values other = if other = name then [value] else h.values other := by
  have append : (h.set name value).values other =
      (h.erase name).values other ++ (if name = other then [value] else []) := by
    simp only [values, set, List.filter_append, List.map_append]
    congr 1
    by_cases hn : name = other <;> simp [hn]
  rw [append, values_erase]
  by_cases ho : other = name
  · simp [ho]
  · have : ¬ name = other := fun e => ho e.symm
    simp [ho, this]

end Headers

end PreviewServer
