import PreviewServer.Proofs.Validation
import PreviewServer.Server

/-!
# Sessions

A session is answered step by step. What a step brings about hangs on the tree that the steps before
it leave behind, and on nothing else of the past.

## Main definitions

* `treeAfter`: the tree that steps leave behind

## Main results

* `Router.getElem?_run`: what each step of a session brings about
* `Router.exists_reply_run_iff`, `Server.exists_response_iff`: which requests of a session are
  replied to, and which over a connection
* `Router.build_eq_ok_iff`, `ServerConfig.router_of_bind`: the routers of a policy and of a server
-/

namespace PreviewServer

/-- The tree that steps leave behind. -/
def treeAfter (tree : FileTree) (steps : List Step) : FileTree :=
  steps.foldl Step.apply tree

/-- **Each step of a session is taken on the tree that the steps before it leave behind.** -/
theorem Router.getElem?_run (r : Router) (tree : FileTree) (steps : List Step) (i : ℕ) :
    (r.run tree steps)[i]? = steps[i]?.map (r.outcome (treeAfter tree (steps.take i))) := by
  -- The first step hands its tree on to the others, so the tree varies in the induction.
  induction steps generalizing tree i with
  | nil => simp [Router.run]
  | cons step steps ih =>
    cases i with
    | zero => simp [Router.run, treeAfter]
    | succ i => simp [Router.run, ih, treeAfter]

/-- A request of a session is replied to if it is on the tree that it finds. -/
theorem Router.exists_reply_run_iff (r : Router) (tree : FileTree) {steps : List Step} {i : ℕ}
    {q : Request} (asked : steps[i]? = some (.request q)) :
    (∃ reply, (r.run tree steps)[i]? = some (.replied (.ok reply))) ↔
      ∃ reply, r.handle (treeAfter tree (steps.take i)) q = .ok reply := by
  rw [Router.getElem?_run, asked]
  simp [Router.outcome]

/-- A request over a connection gets a response if the router of the server replies to it. -/
theorem Server.exists_response_iff (server : Server) (tree : FileTree) {requests : List Request}
    {i : ℕ} {q : Request} (asked : requests[i]? = some q) :
    (∃ response, (server.exchange tree requests).responses[i]? = some (some response)) ↔
      ∃ reply, server.router.handle tree q = .ok reply := by
  simp only [Server.exchange, List.getElem?_map, asked, Option.map_some, Option.some.injEq,
    Server.answer]
  cases server.router.handle tree q with
  | error fault => simp
  | ok reply => simp

/-! ## Where routers come from -/

theorem Router.build_eq_ok_iff {root : List String} {p : Policy} {r : Router} :
    Router.build root p = .ok r ↔ ∃ fields, p.validate = .ok fields ∧ r = ⟨root, p, fields⟩ := by
  unfold Router.build
  simp only [bind_eq_ok_iff, pure_eq_ok_iff]
  constructor
  · rintro ⟨fields, accepted, rfl⟩
    exact ⟨fields, accepted, rfl⟩
  · rintro ⟨fields, accepted, rfl⟩
    exact ⟨fields, accepted, rfl⟩

/-- A bound server answers with the router for its settings. -/
theorem ServerConfig.router_of_bind {c : ServerConfig} {network : Network} {server : Server}
    (bound : c.bind network = .ok server) :
    Router.build (components c.root) c.policy = .ok server.router := by
  unfold ServerConfig.bind at bound
  obtain ⟨router, built, listening⟩ := bind_eq_ok_iff.mp bound
  rw [built]
  -- Of the three answers of the system, one makes a server.
  split at listening
  · cases listening
  · cases listening
  · obtain rfl := Except.ok.inj listening
    rfl

end PreviewServer
