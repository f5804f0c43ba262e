import PreviewServer.Http.Header
import PreviewServer.Http.Status
import PreviewServer.Http.Target
import PreviewServer.Text.Blanks

/-!
# Requests and responses

## Main definitions

* `Method`: the method of a request, compared with regard to case
* `Request`, `Response`: the two kinds of messages; requests have no body here
-/

namespace PreviewServer

/-- A request method: one or more token bytes. -/
structure Method where
  token : String
  legal : token ≠ "" ∧ (utf8 token).all isTokenByte = true
  deriving DecidableEq

namespace Method

/-- The method that a text spells. -/
def ofText? (s : String) : Option Method :=
  if h : s ≠ "" ∧ (utf8 s).all isTokenByte = true then some ⟨s, h⟩ else none

/-- Asks for a resource. -/
def get : Method := ⟨"GET", by decide⟩

/-- Asks for a resource without its body. -/
def head : Method := ⟨"HEAD", by decide⟩

/-- Asks what may be asked; a browser sends it before a request to another site. -/
def options : Method := ⟨"OPTIONS", by decide⟩

/-- Asks for a tunnel. -/
def connect : Method := ⟨"CONNECT", by decide⟩

end Method

/-- A request without a body. -/
structure Request where
  method : Method
  target : Target
  headers : Headers
  deriving DecidableEq

/-- The path of a request as it was written. -/
def Request.path (q : Request) : String :=
  q.target.path

/-- The request that a line asks for: a method and a target with one space between them. -/
def Request.ofLine? (line : String) : Option Request :=
  match (trimBlanks line.toList).splitOn ' ' with
  | [method, target] =>
    (Method.ofText? (String.ofList method)).map fun m =>
      ⟨m, Target.ofText (String.ofList target), .empty⟩
  | _ => none

/-- A response. -/
structure Response where
  status : Status
  headers : Headers
  body : Bytes
  deriving DecidableEq

/-- A response with neither headers nor body. -/
def Response.bare (status : Status) : Response :=
  ⟨status, .empty, []⟩

end PreviewServer
