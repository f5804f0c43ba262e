import PreviewServer.Files.RequestPath
import PreviewServer.Http.ByteRange
import PreviewServer.Http.Date
import PreviewServer.Http.MediaType
import PreviewServer.Http.Message

/-!
# The file service

Answers requests from the files below a directory of a tree. The tree is consulted anew for every
request. A directory is represented by its page `index.html`, to which a request gets only with a
slash at the end of its path; without the slash it is redirected.

## Main definitions

* `fileResponse`: the answer for a file that was found
* `serveFiles`: the answer to a request
-/

namespace PreviewServer

/-- The page that represents a directory. -/
def indexPage : String := "index.html"

/-- The body of an answer to a request for several parts. -/
def severalPartsText : String := "Cannot serve multipart range requests"

/-- The bytes of a part. -/
def Span.slice (span : Span) (contents : Bytes) : Bytes :=
  (contents.drop span.first).take (span.last - span.first + 1)

/-- The answer to a request that cannot be met with one part of a file of a given size. -/
def rangeRefusal (headers : Headers) (size : Nat) (body : String) : Response :=
  ⟨.rangeNotSatisfiable, headers.set .contentRange ("bytes */" ++ decimal size), utf8 body⟩

/-- The answer that holds one part of a file. -/
def partResponse (headers : Headers) (contents : Bytes) (span : Span) : Response :=
  let body := span.slice contents
  let size := contents.length
  let extent := decimal span.first ++ "-" ++ decimal span.last ++ "/" ++ decimal size
  let length := if size = 0 then 0 else span.last - span.first + 1
  ⟨.partialContent,
    (headers.set .contentRange ("bytes " ++ extent)).set .contentLength (decimal length), body⟩

/-- The answer with the contents of a file, or with the parts of it that the request asks for. A
range header that is not in ASCII does not count. -/
def contentsResponse (q : Request) (headers : Headers) (contents : Bytes) : Response :=
  match (q.headers.get? .range).filter isPlainValue with
  | none =>
    ⟨.ok, headers.set .contentLength (decimal contents.length), contents⟩
  | some range =>
    match selectSpans range contents.length with
    | .refused => rangeRefusal headers contents.length ""
    | .several => rangeRefusal headers contents.length severalPartsText
    | .one span => partResponse headers contents span

/-- The date of a condition in a request, if it has one that can be read. -/
def conditionDate? (q : Request) (name : HeaderName) : Option Nat :=
  (q.headers.get? name).bind dateOfText?

/-- An answer without its body where the request asks for none. A refusal of several parts keeps
its text. -/
def dropFileBody (q : Request) (r : Response) : Response :=
  if q.method = .head ∧ r.status.isSuccess then { r with body := [] } else r

/-- The answer for a file. A file that changed after the date of `if-unmodified-since` fails the
condition; one that did not change after the date of `if-modified-since` is not sent again. -/
def fileResponse (q : Request) (name : String) (contents : Bytes) (modified : Nat) : Response :=
  if (conditionDate? q .ifUnmodifiedSince).any (· < modified) then
    .bare .preconditionFailed
  else if (conditionDate? q .ifModifiedSince).any (modified ≤ ·) then
    .bare .notModified
  else
    let headers := Headers.ofList
      [⟨.contentType, guessedType name⟩, ⟨.acceptRanges, "bytes"⟩,
       ⟨.lastModified, dateText modified⟩]
    dropFileBody q (contentsResponse q headers contents)

/-- The status of an answer when a path leads nowhere. -/
def lookupStatus (method : Method) : FileTree.LookupError → Status
  | .missing => .notFound
  | .notDirectory => .notFound
  | .nameTooLong => .internalServerError
  | .illegalName => if method = .head then .internalServerError else .notFound

/-- The answer for the file that components lead to. -/
def respondFrom (tree : FileTree) (q : Request) (cs : List String) : Response :=
  match tree.lookup cs with
  | .error e => .bare (lookupStatus q.method e)
  | .ok .directory => .bare .notFound
  | .ok (.file contents modified) => fileResponse q (cs.getLastD "") contents modified

/-- The answer that sends a request to the same target with a slash at the end of its path. -/
def redirectResponse (target : Target) : Response :=
  match target.withSlash? with
  | some url => ⟨.temporaryRedirect, Headers.ofList [⟨.location, url⟩], []⟩
  | none => .bare .internalServerError

/-- The answer for the file or directory that components lead to. -/
def respondAt (tree : FileTree) (q : Request) (cs : List String) : Response :=
  if tree.isDirectory cs then
    if Target.endsWithSlash q.path then respondFrom tree q (cs ++ [indexPage])
    else redirectResponse q.target
  else respondFrom tree q cs

/-- The answer of the file service for the directory `root` of a tree. -/
def serveFiles (tree : FileTree) (root : List String) (q : Request) : Response :=
  if q.method ≠ .get ∧ q.method ≠ .head then
    ⟨.methodNotAllowed, Headers.ofList [⟨.allow, "GET,HEAD"⟩], []⟩
  else
    match requestComponents? q.path with
    | none => .bare .notFound
    | some cs => respondAt tree q (root ++ cs)

end PreviewServer
