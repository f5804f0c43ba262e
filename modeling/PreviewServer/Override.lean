import PreviewServer.Http.Message
import PreviewServer.Log
import PreviewServer.Policy

/-!
# Applying a policy to responses

A handler answers requests; a layer turns a handler into another one. The override layer answers
preflight requests itself, forces the media type of successful responses by the path of the
request, and logs every request that it completes. Around it lie the layers that set the fixed
headers, the last of the policy outermost.

Media types are set as plain values. A type with other bytes breaks the request off: it gets no
response and leaves no record.

## Main definitions

* `Handler`: a function from requests to replies that may break off
* `overrideTypes`: the override layer of a policy
* `setHeaders`: the layers that set fixed headers
* `Policy.wrap`: all layers of a policy
-/

namespace PreviewServer

/-- Why a request was broken off. -/
inductive Fault where
  /-- A media type that is not in ASCII was about to be set. -/
  | notPlain
  deriving DecidableEq, Repr

/-- The message of a fault. -/
def Fault.message : Fault → String
  | .notPlain => "HeaderValue::from_static with invalid bytes"

/-- A response together with the log records made on the way. -/
structure Reply where
  response : Response
  log : List LogRecord
  deriving DecidableEq

/-- Answers requests; a request may be broken off. -/
abbrev Handler := Request → Except Fault Reply

/-- A handler that gives the response of a function and logs nothing. -/
def Handler.ofFunction (f : Request → Response) : Handler :=
  fun q => .ok ⟨f q, []⟩

/-! ## The override layer -/

/-- The part of the program that logs requests. -/
def requestLogPart : String := "wgsl_devserve::headers"

/-- The record of a request that got a response with a given status. -/
def requestRecord (q : Request) (status : Status) : LogRecord :=
  ⟨.info, requestLogPart, q.method.token ++ " " ++ q.path ++ " " ++ status.text⟩

/-- Whether a policy answers a request as a preflight. -/
def Policy.answers (p : Policy) (q : Request) : Bool :=
  p.answerPreflight && q.method = .options

/-- Whether the media type of a response with this status is forced. -/
def Status.isTyped (s : Status) : Bool :=
  s.isSuccess || s = .notModified

/-- The media type that a policy forces onto a response with a given status, if any. -/
def Policy.forcedType? (p : Policy) (q : Request) (status : Status) : Option String :=
  if status.isTyped then p.contentTypeFor? q.path else none

/-- A response with its media type forced by a policy. -/
def Policy.forceType (p : Policy) (q : Request) (r : Response) : Except Fault Response :=
  match p.forcedType? q r.status with
  | none => .ok r
  | some type =>
    if isPlainValue type then .ok { r with headers := r.headers.set .contentType type }
    else .error .notPlain

/-- The reply to a preflight, or the reply of the inner handler to any other request. -/
def Policy.innerReply (p : Policy) (inner : Handler) (q : Request) : Except Fault Reply :=
  if p.answers q then .ok ⟨.bare .ok, []⟩ else inner q

/-- The override layer of a policy. -/
def overrideTypes (p : Policy) (inner : Handler) : Handler := fun q => do
  let reply ← p.innerReply inner q
  let response ← p.forceType q reply.response
  return ⟨response, reply.log ++ [requestRecord q response.status]⟩

/-! ## Fixed headers -/

/-- A response with fields set one after the other. -/
def Response.setFields (r : Response) (fields : List Field) : Response :=
  { r with headers := fields.foldl (fun h f => h.set f.name f.value) r.headers }

/-- The layers that set fixed headers on every response. -/
def setHeaders (fields : List Field) (inner : Handler) : Handler := fun q => do
  let reply ← inner q
  return { reply with response := reply.response.setFields fields }

/-- All layers of a policy with the fields that it fixes. -/
def Policy.wrap (p : Policy) (fields : List Field) (inner : Handler) : Handler :=
  setHeaders fields (overrideTypes p inner)

end PreviewServer
