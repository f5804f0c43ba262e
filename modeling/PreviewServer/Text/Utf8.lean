/-!
# Text as bytes

Texts are compared, cut and sent as their UTF-8 bytes.

## Main definitions

* `Bytes`: a sequence of bytes
* `utf8`: the bytes of a text
* `ofUtf8?`: the text with given bytes, if they are well formed
-/

namespace PreviewServer

/-- A sequence of bytes: the contents of a file or the body of a response. -/
abbrev Bytes := List UInt8

/-- The UTF-8 bytes of a text, character by character. -/
def utf8 (s : String) : Bytes :=
  s.toList.flatMap String.utf8EncodeChar

/-- The text whose UTF-8 bytes are given; `none` if they are not well formed. -/
def ofUtf8? (bytes : Bytes) : Option String :=
  String.fromUTF8? ⟨bytes.toArray⟩

@[simp] theorem utf8_empty : utf8 "" = [] := by simp [utf8]

@[simp] theorem utf8_append (s t : String) : utf8 (s ++ t) = utf8 s ++ utf8 t := by
  simp [utf8]

end PreviewServer
