import PreviewServer.Text.Blanks
import PreviewServer.Text.Decimal

/-!
# Byte ranges

A request may ask for parts of a resource, such as `bytes=0-99,200-`. Each part is resolved against
the size of the resource; a request with a part that is malformed, empty or overlaps another one is
refused as a whole.

## Main definitions

* `RangeSpec`: a part as it is asked for
* `Span`: a part as it is sent, by its first and last byte
* `selectSpans`: what a range header selects of a resource of a given size
-/

namespace PreviewServer

/-- A part of a resource as a request asks for it. -/
inductive RangeSpec where
  /-- From one byte to another, both included. -/
  | closed (first last : Nat)
  /-- From a byte to the end. -/
  | openEnded (first : Nat)
  /-- A number of bytes at the end. -/
  | tail (count : Nat)
  deriving DecidableEq, Repr

/-- A part of a resource by the places of its first and its last byte. -/
structure Span where
  first : Nat
  last : Nat
  deriving DecidableEq, Repr

/-- Two parts without a byte in common. -/
def Span.Apart (x y : Span) : Prop :=
  x.last < y.first ∨ y.last < x.first

instance : DecidableRel Span.Apart :=
  fun x y => inferInstanceAs (Decidable (x.last < y.first ∨ y.last < x.first))

/-- The greatest place that a byte may be asked for at: the last number of 64 bits. -/
def maxPosition : Nat := 0xffffffffffffffff

/-- The place of a byte, without a superfluous zero in front. -/
def position? (cs : List Char) : Option Nat :=
  if cs.length = 1 ∨ cs.head? ≠ some '0' then decimalUpTo? maxPosition cs else none

/-- Reads one part, already without blanks around it. -/
def RangeSpec.ofChars? (cs : List Char) : Option RangeSpec :=
  match cs.takeWhile (· ≠ '-'), cs.dropWhile (· ≠ '-') with
  | _, [] => none
  | [], _ :: count => (position? count).bind fun n => if n = 0 then none else some (.tail n)
  | first, [_] => (position? first).map .openEnded
  | first, _ :: last => do return .closed (← position? first) (← position? last)

/-- Whether the blanks of a part are admissible: none at its end, and at most one in all. -/
def blanksAdmissible (cs : List Char) : Bool :=
  !cs.getLast?.any isBlank && cs.countP isBlank ≤ 1

/-- The parts that a range header asks for, if it is well formed. -/
def rangeSpecs? (header : String) : Option (List RangeSpec) :=
  match header.toList with
  | 'b' :: 'y' :: 't' :: 'e' :: 's' :: '=' :: rest =>
    if rest.head?.any isBlank then none
    else (rest.splitOn ',').mapM fun part =>
      if blanksAdmissible part then RangeSpec.ofChars? (trimBlanks part) else none
  | _ => none

/-- The bytes that a part covers in a resource of a given size, if there are any. The last byte of
an empty resource counts as byte 0. -/
def RangeSpec.resolve? (size : Nat) (spec : RangeSpec) : Option Span :=
  let span? : Option Span :=
    match spec with
    | .closed first last => some ⟨first, min last (size - 1)⟩
    | .openEnded first => some ⟨first, size - 1⟩
    | .tail count => if count ≤ size then some ⟨size - count, size - 1⟩ else none
  span?.filter fun span => span.first ≤ span.last

/-- What a range header selects of a resource. -/
inductive Selection where
  /-- The header cannot be met. -/
  | refused
  /-- One part. -/
  | one (span : Span)
  /-- Several parts that lie apart. -/
  | several
  deriving DecidableEq, Repr

/-- What a range header selects of a resource of a given size. -/
def selectSpans (header : String) (size : Nat) : Selection :=
  match (rangeSpecs? header).bind fun specs => specs.mapM (RangeSpec.resolve? size) with
  | none => .refused
  | some [span] => .one span
  | some spans => if spans.Pairwise Span.Apart then .several else .refused

end PreviewServer
