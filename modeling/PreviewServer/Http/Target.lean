import PreviewServer.Text.Case

/-!
# Request targets

The target of a request has one of four forms. A path is kept as it was written: nothing in it is
percent-decoded. Fragments are dropped.

## Main definitions

* `Target`: the four forms
* `Target.ofText`: reads a target
* `Target.path`: the path of a target
* `Target.withSlash?`: the text of a target whose path has a slash appended
-/

namespace PreviewServer

/-- The target of a request. -/
inductive Target where
  /-- A path of the server that is asked. -/
  | origin (path : String) (query : Option String)
  /-- A path of any server. -/
  | absolute (scheme host path : String) (query : Option String)
  /-- A server alone. -/
  | authority (text : String)
  /-- The server that is asked, as a whole. -/
  | asterisk
  deriving DecidableEq, Repr

namespace Target

/-- Path and query of a text that starts with a path. The query begins after the first question
mark, and both end at the first hash sign. -/
def splitPath (cs : List Char) : String × Option String :=
  let written := cs.takeWhile (· ≠ '#')
  let path := String.ofList (written.takeWhile (· ≠ '?'))
  match written.dropWhile (· ≠ '?') with
  | [] => (path, none)
  | _ :: query => (path, some (String.ofList query))

/-- The characters of a scheme. -/
def isSchemeChar (c : Char) : Bool :=
  c.isAlphanum || c = '+' || c = '-' || c = '.'

/-- The two schemes of the web are known in any case; other schemes are kept as written. -/
def canonicalScheme (scheme : String) : String :=
  let small := asciiLower scheme
  if small = "http" ∨ small = "https" then small else scheme

/-- Whether a character ends the authority. -/
def endsAuthority (c : Char) : Bool :=
  c = '/' || c = '?' || c = '#'

/-- An absolute target, from its scheme and from what follows the two slashes. An empty path stands
for the root. -/
def ofParts (scheme rest : List Char) : Target :=
  let host := rest.takeWhile fun c => !endsAuthority c
  let (path, query) := splitPath (rest.dropWhile fun c => !endsAuthority c)
  .absolute (canonicalScheme (String.ofList scheme)) (String.ofList host)
    (if path = "" then "/" else path) query

/-- Reads a target: a text that starts with a slash is a path, a lone asterisk is the server as a
whole, a scheme with two slashes begins an absolute target, and anything else names a server. -/
def ofText (s : String) : Target :=
  match s.toList with
  | ['*'] => .asterisk
  | '/' :: cs =>
    let (path, query) := splitPath ('/' :: cs)
    .origin path query
  | cs =>
    match cs.dropWhile isSchemeChar with
    | ':' :: '/' :: '/' :: rest => ofParts (cs.takeWhile isSchemeChar) rest
    | _ => .authority s

/-- The path of a target. -/
def path : Target → String
  | .origin path _ => path
  | .absolute _ _ path _ => path
  | .authority _ => ""
  | .asterisk => "*"

/-- A query with its question mark. -/
def queryText : Option String → String
  | none => ""
  | some query => "?" ++ query

/-- The text of a target whose path has a slash appended; a server alone has no path to append it
to. -/
def withSlash? : Target → Option String
  | .origin path query => some (path ++ "/" ++ queryText query)
  | .absolute scheme host path query =>
    some (scheme ++ "://" ++ host ++ path ++ "/" ++ queryText query)
  | .authority _ => none
  | .asterisk => some "*/"

/-- Whether a path begins with a slash. -/
def isRooted (path : String) : Bool :=
  path.toList.head? = some '/'

/-- Whether a path ends with a slash. -/
def endsWithSlash (path : String) : Bool :=
  path.toList.getLast? = some '/'

end Target

end PreviewServer
