import PreviewServer.Text.Decimal

/-!
# Ports

A port may be given as the first argument of the command. A missing argument selects the default
port; an argument that is no port selects it too, with a notice.

## Main definitions

* `Port.ofText?`: the port that a numeral names
* `choosePort`: the port to serve on, with the notice printed on the way
* `suggestedPort`: the port to try after one that is taken
-/

namespace PreviewServer

/-- A port number. -/
abbrev Port := UInt16

/-- The decimal text of a port. -/
def Port.text (p : Port) : String :=
  decimal p.toNat

/-- A numeral without its plus sign, if it has one. -/
def dropPlus : List Char → List Char
  | '+' :: cs => cs
  | cs => cs

/-- The port that a text names: at most one plus sign, then one or more digits with a value of at
most 65535. -/
def Port.ofText? (s : String) : Option Port :=
  (decimalUpTo? 65535 (dropPlus s.toList)).map Nat.toUInt16

/-- The port served when none is given. -/
def defaultPort : Port := 8000

/-- The notice for an argument that is no port. -/
def invalidPortNotice : String :=
  "Invalid port number. Using default port " ++ defaultPort.text ++ ".\n"

/-- A port together with what was printed while choosing it. -/
structure PortChoice where
  port : Port
  printed : String
  deriving DecidableEq, Repr

/-- The port selected by an optional argument. -/
def choosePort : Option String → PortChoice
  | none => ⟨defaultPort, ""⟩
  | some argument =>
    match Port.ofText? argument with
    | some port => ⟨port, ""⟩
    | none => ⟨defaultPort, invalidPortNotice⟩

/-- The port after a given one; the last port has none. -/
def suggestedPort (port : Port) : Option Port :=
  if port.toNat < 65535 then some (port + 1) else none

end PreviewServer
