import PreviewServer.Http.Message

/-!
# Finishing responses

What is done to every response after all layers, and what becomes of it on a connection.

## Main definitions

* `finish`: bodies and lengths of the responses to particular requests
* `onWire`: a response as a client sees it
-/

namespace PreviewServer

/-- A response with its length, unless it has one. -/
def Response.withLength (r : Response) : Response :=
  if (r.headers.get? .contentLength).isSome then r
  else { r with headers := r.headers.set .contentLength (decimal r.body.length) }

/-- A response without its body. -/
def Response.withoutBody (r : Response) : Response :=
  { r with body := [] }

/-- The last step before a response is sent. A tunnel that was granted has no body. A response to a
request whose target has no rooted path gets its length, and loses its body if none was asked for.
Other responses stay as they are. -/
def finish (q : Request) (r : Response) : Response :=
  if q.method = .connect ∧ r.status.isSuccess then r.withoutBody
  else if Target.isRooted q.path then r
  else if q.method = .head then r.withLength.withoutBody
  else r.withLength

/-- A response as a client sees it on a connection. It has the length of its body, unless it is an
unmodified response, or a response without a body to a request that asks for none. The fields that
concern the connection are left out. -/
def onWire (q : Request) (r : Response) : Response :=
  let unsized := r.status = .notModified ∨ (q.method = .head ∧ r.body.isEmpty)
  let sized := if unsized then r else r.withLength
  let sent := if q.method = .head then sized.withoutBody else sized
  { sent with headers := (sent.headers.erase .date).erase .connection }

end PreviewServer
