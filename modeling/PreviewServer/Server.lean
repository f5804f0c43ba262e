import PreviewServer.Config
import PreviewServer.Net.Listener
import PreviewServer.Router

/-!
# Servers

Settings become a server by binding: the policy is checked, and the system is asked to listen. A
bound server answers requests over connections until it is shut down.

## Main definitions

* `Server`: a server that listens
* `ServerConfig.bind`: the server of given settings, or why there is none
* `Server.exchange`: answers requests that arrive one by one
-/

namespace PreviewServer

/-- A server that listens at an address. -/
structure Server where
  /-- The address at which it listens. -/
  address : SocketAddress
  /-- The directory that it serves. -/
  root : String
  router : Router
  deriving DecidableEq

/-- The error for a refusal to listen under given settings. -/
def ServerConfig.refusal (c : ServerConfig) (source : SystemError) : Error :=
  if source.kind = .addressInUse then .addressInUse c.port
  else .bind ⟨c.host, c.port⟩ source

/-- Binds a server: first the policy is checked, then the system is asked. -/
def ServerConfig.bind (c : ServerConfig) (network : Network) : Except Error Server := do
  let router ← Router.build (components c.root) c.policy
  match network ⟨c.host, c.port⟩ with
  | .refused source => .error (c.refusal source)
  | .listening (.error source) => .error (.bind ⟨c.host, c.port⟩ source)
  | .listening (.ok address) => .ok ⟨address, c.root, router⟩

/-! ## Answering requests -/

/-- What requests over connections bring about: for each the response that the client sees, or
nothing if the connection was closed; and all records in order. -/
structure Exchange where
  responses : List (Option Response)
  log : List LogRecord
  deriving DecidableEq

/-- What one request brings about. -/
def Server.answer (s : Server) (tree : FileTree) (q : Request) : Option Response × List LogRecord :=
  match s.router.handle tree q with
  | .ok reply => (some (onWire q reply.response), reply.log)
  | .error _ => (none, [])

/-- What requests that arrive one by one bring about. A request that breaks off closes its
connection and leaves the server running. -/
def Server.exchange (s : Server) (tree : FileTree) (requests : List Request) : Exchange where
  responses := requests.map fun q => (s.answer tree q).1
  log := requests.flatMap fun q => (s.answer tree q).2

end PreviewServer
