import PreviewServer.Files.Tree

/-!
# From request paths to components

The path of a request is percent-decoded once and then split at its slashes. Paths that could lead
out of the served directory have no components.

## Main definitions

* `percentDecode`: replaces percent escapes by their bytes
* `requestComponents?`: the components below the served directory that a request path names
-/

namespace PreviewServer

/-- The value of a byte as a hexadecimal digit in either case. -/
def hexByteValue? (b : UInt8) : Option UInt8 :=
  if 48 ≤ b ∧ b ≤ 57 then some (b - 48)
  else if 97 ≤ b ∧ b ≤ 102 then some (b - 87)
  else if 65 ≤ b ∧ b ≤ 70 then some (b - 55)
  else none

/-- Replaces each percent sign with two hexadecimal digits after it by the byte they name. Other
percent signs stay. -/
def percentDecode : Bytes → Bytes
  | b :: hi :: lo :: rest =>
    if b = 37 then
      match hexByteValue? hi, hexByteValue? lo with
      | some x, some y => (16 * x + y) :: percentDecode rest
      | _, _ => b :: percentDecode (hi :: lo :: rest)
    else b :: percentDecode (hi :: lo :: rest)
  | bytes => bytes

/-- The components of a decoded text below a directory; `none` if it starts at the top or goes
up. -/
def relativeComponents? (s : String) : Option (List String) :=
  if s.toList.head? = some '/' ∨ ".." ∈ components s then none else some (properComponents s)

/-- The components that a request path names below the served directory. Slashes at the front do
not count; what is no text after decoding, or leads upwards, names nothing. -/
def requestComponents? (path : String) : Option (List String) :=
  (ofUtf8? (percentDecode (utf8 (String.ofList (path.toList.dropWhile (· = '/')))))).bind
    relativeComponents?

end PreviewServer
