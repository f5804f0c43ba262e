import PreviewServer.Net.Port

/-!
# Internet addresses

Addresses of both versions, their canonical texts, and the texts that are read as addresses.

The text of a version 6 address writes each group in lower-case hexadecimal without leading zeros
and puts `::` for the first of the longest runs of at least two zero groups. Only the range
`::ffff:0:0/96`, which stands for the version 4 addresses, has a dotted tail.

## Main definitions

* `Ipv4`, `Ipv6`, `IpAddress`, `SocketAddress`: addresses, alone and with a port
* `IpAddress.text`, `SocketAddress.text`: canonical texts
* `IpAddress.ofText?`: the address that a text names
-/

namespace PreviewServer

/-- A version 4 address, by its four octets. -/
structure Ipv4 where
  a : UInt8
  b : UInt8
  c : UInt8
  d : UInt8
  deriving DecidableEq, Repr

/-- A version 6 address, by its eight groups of sixteen bits. -/
structure Ipv6 where
  groups : List UInt16
  length_groups : groups.length = 8
  deriving DecidableEq, Repr

/-- An address of either version. -/
inductive IpAddress where
  | v4 (address : Ipv4)
  | v6 (address : Ipv6)
  deriving DecidableEq, Repr

/-- An address together with a port. -/
structure SocketAddress where
  host : IpAddress
  port : Port
  deriving DecidableEq, Repr

/-! ## Canonical texts -/

/-- The dotted text of a version 4 address. -/
def Ipv4.text (x : Ipv4) : String :=
  ".".intercalate ([x.a, x.b, x.c, x.d].map fun octet => decimal octet.toNat)

/-- Groups in lower-case hexadecimal without leading zeros, with colons between them. -/
def groupsText (groups : List UInt16) : String :=
  ":".intercalate (groups.map fun g => String.ofList (Nat.toDigits 16 g.toNat))

/-- Start and length of the first of the longest runs of zero groups. -/
def longestZeroRun : List UInt16 → Nat × Nat
  | [] => (0, 0)
  | g :: gs =>
    let here := ((g :: gs).takeWhile (· = 0)).length
    let (start, length) := longestZeroRun gs
    if 0 < here ∧ length ≤ here then (0, here) else (start + 1, length)

/-- The version 4 address that a version 6 address of the range `::ffff:0:0/96` stands for. -/
def Ipv6.mapped? (x : Ipv6) : Option Ipv4 :=
  match x.groups with
  | [0, 0, 0, 0, 0, 0xffff, hi, lo] =>
    some ⟨(hi >>> 8).toUInt8, hi.toUInt8, (lo >>> 8).toUInt8, lo.toUInt8⟩
  | _ => none

/-- The text of a version 6 address. -/
def Ipv6.text (x : Ipv6) : String :=
  match x.mapped? with
  | some y => "::ffff:" ++ y.text
  | none =>
    let (start, length) := longestZeroRun x.groups
    if 2 ≤ length then
      groupsText (x.groups.take start) ++ "::" ++ groupsText (x.groups.drop (start + length))
    else groupsText x.groups

/-- The text of an address. -/
def IpAddress.text : IpAddress → String
  | .v4 x => x.text
  | .v6 x => x.text

/-- The text of a socket address; a version 6 address stands in brackets. -/
def SocketAddress.text (s : SocketAddress) : String :=
  match s.host with
  | .v4 x => x.text ++ ":" ++ s.port.text
  | .v6 x => "[" ++ x.text ++ "]:" ++ s.port.text

/-! ## Reading addresses -/

/-- An octet: one to three digits without a superfluous zero in front, at most 255. -/
def octet? (cs : List Char) : Option UInt8 :=
  if cs.length ≤ 3 ∧ (cs.length = 1 ∨ cs.head? ≠ some '0') then
    (decimalUpTo? 255 cs).map Nat.toUInt8
  else none

/-- Reads a dotted version 4 address. -/
def Ipv4.ofChars? (cs : List Char) : Option Ipv4 :=
  match cs.splitOn '.' with
  | [a, b, c, d] => do return ⟨← octet? a, ← octet? b, ← octet? c, ← octet? d⟩
  | _ => none

/-- The value of a hexadecimal digit in either case. -/
def hexValue? (c : Char) : Option Nat :=
  let n := c.toNat
  if 48 ≤ n ∧ n ≤ 57 then some (n - 48)
  else if 97 ≤ n ∧ n ≤ 102 then some (n - 87)
  else if 65 ≤ n ∧ n ≤ 70 then some (n - 55)
  else none

/-- A group: one to four hexadecimal digits. -/
def group? (cs : List Char) : Option UInt16 :=
  if 1 ≤ cs.length ∧ cs.length ≤ 4 then
    (cs.foldlM (fun value c => (hexValue? c).map (16 * value + ·)) 0).map Nat.toUInt16
  else none

/-- The two groups that a version 4 address fills at the end of a version 6 address. -/
def Ipv4.groups (x : Ipv4) : List UInt16 :=
  [x.a.toUInt16 * 256 + x.b.toUInt16, x.c.toUInt16 * 256 + x.d.toUInt16]

/-- Groups between colons; when `dotted`, the last piece may be a version 4 address. -/
def groups? (dotted : Bool) : List (List Char) → Option (List UInt16)
  | [] => some []
  | [last] =>
    match if dotted then Ipv4.ofChars? last else none with
    | some x => some x.groups
    | none => (group? last).map ([·])
  | piece :: pieces => do return (← group? piece) :: (← groups? dotted pieces)

/-- Groups of a part of an address that may be empty. -/
def partGroups? (dotted : Bool) (cs : List Char) : Option (List UInt16) :=
  if cs.isEmpty then some [] else groups? dotted (cs.splitOn ':')

/-- The parts before and after the first `::`, if there is one. -/
def splitDoubleColon : List Char → Option (List Char × List Char)
  | ':' :: ':' :: rest => some ([], rest)
  | c :: cs => (splitDoubleColon cs).map fun (before, after) => (c :: before, after)
  | [] => none

/-- The version 6 address with given groups, if there are eight. -/
def Ipv6.ofGroups? (groups : List UInt16) : Option Ipv6 :=
  if h : groups.length = 8 then some ⟨groups, h⟩ else none

/-- Reads a version 6 address. A `::` stands for one or more zero groups, and a dotted tail may
only come last. -/
def Ipv6.ofChars? (cs : List Char) : Option Ipv6 :=
  match splitDoubleColon cs with
  | none => do Ipv6.ofGroups? (← partGroups? true cs)
  | some (before, after) => do
    let front ← partGroups? false before
    let back ← partGroups? true after
    if front.length + back.length ≤ 7 then
      Ipv6.ofGroups? (front ++ List.replicate (8 - front.length - back.length) 0 ++ back)
    else none

/-- The address that a text names. -/
def IpAddress.ofText? (s : String) : Option IpAddress :=
  ((Ipv4.ofChars? s.toList).map .v4).or ((Ipv6.ofChars? s.toList).map .v6)

/-- The address `0.0.0.0`: every interface of the machine. -/
def IpAddress.anyV4 : IpAddress := .v4 ⟨0, 0, 0, 0⟩

end PreviewServer
