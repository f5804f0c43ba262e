import PreviewServer.Files.Service
import PreviewServer.Http.Finish
import PreviewServer.Override

/-!
# Routers

A router serves the files below a directory under a policy. It holds no state: each request is
answered from the tree as it is then.

## Main definitions

* `Router`: a directory with a policy that was found legal
* `Router.build`: checks the policy
* `Router.handle`: answers a request
* `Router.run`: answers requests between changes to the tree
-/

namespace PreviewServer

/-- Serves the files of a directory under a policy. -/
structure Router where
  /-- The components that lead to the directory. -/
  root : List String
  policy : Policy
  /-- The fields that the policy sets on every response. -/
  fields : List Field
  deriving DecidableEq

/-- A router for a directory, if the policy is legal. -/
def Router.build (root : List String) (policy : Policy) : Except Error Router := do
  let fields ← policy.validate
  return ⟨root, policy, fields⟩

/-- Applies the layers of a policy to a handler, and the last step to what comes out. -/
def Policy.serve (p : Policy) (fields : List Field) (inner : Handler) : Handler := fun q => do
  let reply ← p.wrap fields inner q
  return { reply with response := finish q reply.response }

/-- The reply of a router to a request, with the files of a tree. -/
def Router.handle (r : Router) (tree : FileTree) : Handler :=
  r.policy.serve r.fields (.ofFunction (serveFiles tree r.root))

/-! ## Sessions -/

/-- A step of a session: a request, or a change to the tree. -/
inductive Step where
  | request (q : Request)
  | write (path : Path) (entry : Entry)
  | remove (path : Path)

/-- What a step brings about. -/
inductive Outcome where
  | replied (reply : Except Fault Reply)
  | written
  | removed

/-- The tree after a step. -/
def Step.apply (tree : FileTree) : Step → FileTree
  | .request _ => tree
  | .write path entry => tree.write path entry
  | .remove path => tree.remove path

/-- What a step brings about on a tree. -/
def Router.outcome (r : Router) (tree : FileTree) : Step → Outcome
  | .request q => .replied (r.handle tree q)
  | .write _ _ => .written
  | .remove _ => .removed

/-- What the steps of a session bring about, one after the other. -/
def Router.run (r : Router) (tree : FileTree) : List Step → List Outcome
  | [] => []
  | step :: steps => r.outcome tree step :: r.run (step.apply tree) steps

end PreviewServer
