import PreviewServer.Error
import PreviewServer.Http.Header

/-!
# Header policies

A policy says which headers are forced onto responses: fixed headers on every response, and a media
type for paths with certain suffixes.

## Main definitions

* `Policy`: fixed headers, media types by suffix, and whether preflight requests are answered
* `Policy.contentTypeFor?`: the media type forced for a path
* `Policy.validate`: the fixed headers of a policy whose names, values and types are all legal
* `devPolicy`: the policy for previewing pages that load WebAssembly
-/

namespace PreviewServer

/-- A header to be set on every response, as it is written. -/
structure FixedHeader where
  name : String
  value : String
  deriving DecidableEq, Repr

/-- A media type for the paths with a suffix. -/
structure TypeRule where
  suffix : String
  type : String
  deriving DecidableEq, Repr

/-- Which headers are forced onto responses. -/
structure Policy where
  /-- Headers set on every response. Names count without regard to case. -/
  headers : List FixedHeader
  /-- Media types by suffix of the path; the first rule that matches counts. -/
  contentTypes : List TypeRule
  /-- Whether preflight requests are answered at once and not handed on. -/
  answerPreflight : Bool
  deriving DecidableEq, Repr

/-- The policy for previewing pages that load WebAssembly from other sites. -/
def devPolicy : Policy where
  headers :=
    [⟨"access-control-allow-origin", "*"⟩,
     ⟨"access-control-allow-methods", "GET, POST, OPTIONS"⟩,
     ⟨"access-control-allow-headers", "Content-Type"⟩]
  contentTypes :=
    [⟨".wasm", "application/wasm"⟩,
     ⟨".js", "application/javascript"⟩,
     ⟨".html", "text/html"⟩,
     ⟨".css", "text/css"⟩]
  answerPreflight := true

/-- Whether a rule applies to a path: the bytes of its suffix end those of the path. -/
def TypeRule.matches (rule : TypeRule) (path : String) : Bool :=
  (utf8 rule.suffix).isSuffixOf (utf8 path)

/-- The media type of the first rule that applies to a path. -/
def Policy.contentTypeFor? (p : Policy) (path : String) : Option String :=
  (p.contentTypes.find? (·.matches path)).map (·.type)

/-! ## Legal policies -/

/-- The field that a fixed header sets, if its name and value are legal. -/
def FixedHeader.field? (h : FixedHeader) : Option Field :=
  (HeaderName.ofText? h.name).bind fun name =>
    if isLegalValue h.value then some ⟨name, h.value⟩ else none

/-- The field that a fixed header sets, or the error that shows it as written. -/
def FixedHeader.validate (h : FixedHeader) : Except Error Field :=
  match h.field? with
  | some field => .ok field
  | none => .error (.invalidHeader (h.name ++ ": " ++ h.value))

/-- Checks that the type of a rule is a legal header value. -/
def TypeRule.validate (rule : TypeRule) : Except Error Unit :=
  if isLegalValue rule.type then .ok ()
  else .error (.invalidHeader ("content-type: " ++ rule.type))

/-- The fields that a policy sets on every response, in its order. All media types are checked
before the first header; the first offender is the error. -/
def Policy.validate (p : Policy) : Except Error (List Field) := do
  p.contentTypes.forM TypeRule.validate
  p.headers.mapM FixedHeader.validate

/-! ## Reports -/

/-- The report of a policy. -/
def Policy.report (p : Policy) : String :=
  "HeaderPolicy \x7b headers: " ++ listed (p.headers.map fun h => quotedPair h.name h.value) ++
    ", content_types: " ++ listed (p.contentTypes.map fun r => quotedPair r.suffix r.type) ++
    ", answer_preflight: " ++ shownBool p.answerPreflight ++ " \x7d"

end PreviewServer
