import PreviewServer.Proofs.Faults
import PreviewServer.Proofs.Numerals

/-!
# The log of a session

A request that is replied to leaves one record, with the status of the response that its client
gets; a request that is broken off leaves none. A record is a line of words, and its first words
tell the method, the path and the code, so these can be read back from it.

## Main definitions

* `Step.isChange`: the steps that change the tree
* `Outcome.log`: the records that a step leaves
* `answered`: the requests of a session that were replied to, with their responses
* `readRecord?`: reads a record back

## Main results

* `treeAfter_filter_isChange`: requests leave the tree as it is
* `Router.log_of_handle`: a reply comes with one record
* `Router.log_run`: the log of a session, record by record
* `readRecord?_requestRecord`: what a record tells about its request
* `Router.session_law`: what a session answers and what it logs
-/

namespace PreviewServer

/-! ## The tree of a session -/

/-- Whether a step changes the tree. -/
def Step.isChange : Step → Bool
  | .request _ => false
  | .write _ _ => true
  | .remove _ => true

/-- Only the changes among the steps count for the tree that they leave behind. -/
theorem treeAfter_filter_isChange (tree : FileTree) (steps : List Step) :
    treeAfter tree (steps.filter Step.isChange) = treeAfter tree steps := by
  -- A change hands its tree on to the steps after it, so the tree varies.
  induction steps generalizing tree with
  | nil => rfl
  | cons step steps ih =>
    cases step with
    | request q => exact ih tree
    | write path entry => exact ih (tree.write path entry)
    | remove path => exact ih (tree.remove path)

/-! ## The records of a session -/

/-- The records that a step leaves. -/
def Outcome.log : Outcome → List LogRecord
  | .replied (.ok reply) => reply.log
  | .replied (.error _) => []
  | .written => []
  | .removed => []

/-- The request of a step with the response to it, if it got one. -/
def answered? : Step × Outcome → Option (Request × Response)
  | (.request q, .replied (.ok reply)) => some (q, reply.response)
  | _ => none

/-- The requests of a session that were replied to, each with its response. -/
def answered (steps : List Step) (outcomes : List Outcome) : List (Request × Response) :=
  (steps.zip outcomes).filterMap answered?

theorem answered_cons (step : Step) (outcome : Outcome) (steps : List Step)
    (outcomes : List Outcome) :
    answered (step :: steps) (outcome :: outcomes) =
      (answered? (step, outcome)).toList ++ answered steps outcomes := by
  unfold answered
  rw [List.zip_cons_cons, List.filterMap_cons]
  cases answered? (step, outcome) <;> rfl

section Session

variable {r : Router} {tree : FileTree}

theorem Router.log_of_handle {q : Request} {reply : Reply} (replied : r.handle tree q = .ok reply) :
    reply.log = [requestRecord q reply.response.status] := by
  obtain ⟨seen, hseen, -, rfl⟩ := Policy.serve_eq_ok_iff.mp replied
  -- Neither the answer to a preflight nor that of the file service brings a record of its own.
  have silent : seen.log = [] := by
    unfold Policy.innerReply at hseen
    split at hseen
    · rw [← Except.ok.inj hseen]
    · rw [← Except.ok.inj hseen]
  simp [silent]

theorem Router.log_outcome (r : Router) (tree : FileTree) (step : Step) :
    (r.outcome tree step).log =
      ((answered? (step, r.outcome tree step)).map
        fun a => requestRecord a.1 a.2.status).toList := by
  cases step with
  | request q =>
    cases replied : r.handle tree q with
    | error fault => simp [Router.outcome, replied, Outcome.log, answered?]
    | ok reply =>
      simp [Router.outcome, replied, Outcome.log, answered?, Router.log_of_handle replied]
  | write path entry => rfl
  | remove path => rfl

/-- **The log of a session** has one record for each request that was replied to, in order. -/
theorem Router.log_run (r : Router) (tree : FileTree) (steps : List Step) :
    (r.run tree steps).flatMap Outcome.log =
      (answered steps (r.run tree steps)).map fun a => requestRecord a.1 a.2.status := by
  induction steps generalizing tree with
  | nil => rfl
  | cons step steps ih =>
    rw [Router.run, List.flatMap_cons, ih, answered_cons, List.map_append, Router.log_outcome]
    cases answered? (step, r.outcome tree step) <;> rfl

end Session

/-! ## Reading records back -/

/-- The method, the path and the code that a record tells, by its words. -/
def readRecord? (text : String) : Option (String × String × Nat) :=
  match text.toList.splitOn ' ' with
  | _ :: method :: path :: code :: _ =>
    (decimalUpTo? 999 code).map fun n => (String.ofList method, String.ofList path, n)
  | _ => none

theorem requestRecord_text (q : Request) (s : Status) :
    (requestRecord q s).text = "INFO " ++ q.method.token ++ " " ++ q.path ++ " " ++
      decimal s.code ++ " " ++ s.phrase?.getD "<unknown status code>" := by
  simp [requestRecord, LogRecord.text, LogLevel.name, Status.text, String.append_assoc]

theorem Method.space_notMem (m : Method) : ' ' ∉ m.token.toList := by
  intro space
  -- A space would be a byte of the method, and it is no token byte.
  have byte : (32 : UInt8) ∈ utf8 m.token :=
    List.mem_flatMap.mpr ⟨' ', space, by decide⟩
  exact absurd (List.all_eq_true.mp m.legal.2 _ byte) (by decide)

theorem space_notMem_decimal (n : Nat) : ' ' ∉ (decimal n).toList := by
  rw [decimal, String.toList_ofList]
  intro space
  exact absurd (Nat.isDigit_of_mem_toDigits (by decide) (by decide) space) (by decide)

/-- **What a record tells about its request** can be read back, if the path holds no space. The
phrase may hold spaces, and the path may be empty. -/
theorem readRecord?_requestRecord {q : Request} (free : ' ' ∉ q.path.toList) (s : Status) :
    readRecord? (requestRecord q s).text = some (q.method.token, q.path, s.code) := by
  have words : (requestRecord q s).text.toList =
      "INFO".toList ++ ' ' :: (q.method.token.toList ++ ' ' :: (q.path.toList ++ ' ' ::
        ((decimal s.code).toList ++ ' ' :: (s.phrase?.getD "<unknown status code>").toList))) := by
    simp [requestRecord_text]
  have split : (requestRecord q s).text.toList.splitOn ' ' =
      "INFO".toList :: q.method.token.toList :: q.path.toList :: (decimal s.code).toList ::
        (s.phrase?.getD "<unknown status code>").toList.splitOn ' ' := by
    -- Four words without a space are cut off one by one; the phrase stays behind them.
    rw [words, List.splitOn_append_cons_self_of_not_mem (by decide),
      List.splitOn_append_cons_self_of_not_mem q.method.space_notMem,
      List.splitOn_append_cons_self_of_not_mem free,
      List.splitOn_append_cons_self_of_not_mem (space_notMem_decimal _)]
  simp only [readRecord?, split, decimalUpTo?_decimal s.upper, Option.map_some,
    String.ofList_toList]

/-! ## Sessions of a router -/

section Law

variable {root : List String} {p : Policy} {r : Router}

/-- **The law of sessions.** A request is answered as a fresh router answers it alone, on the tree
that the changes before it leave behind. It is broken off, or it gets a reply with exactly one
record, which shows the method, the path and the status of the response that the router gives;
method, path and code are read back from it if the path holds no space. The log of the session is
made of these records, in order, and of nothing else. -/
theorem Router.session_law (built : Router.build root p = .ok r) (tree : FileTree)
    (steps : List Step) :
    (∀ (i : ℕ) (q : Request), steps[i]? = some (.request q) →
      ∀ fresh, Router.build root p = .ok fresh →
        (r.run tree steps)[i]? =
          (fresh.run (treeAfter tree ((steps.take i).filter Step.isChange)) [.request q])[0]?) ∧
    (∀ (i : ℕ) (q : Request), steps[i]? = some (.request q) →
      (∃ fault, (r.run tree steps)[i]? = some (.replied (.error fault))) ∨
      ∃ reply record, (r.run tree steps)[i]? = some (.replied (.ok reply)) ∧
        reply.log = [record] ∧
        record.text = "INFO " ++ q.method.token ++ " " ++ q.path ++ " " ++
          decimal reply.response.status.code ++ " " ++
          reply.response.status.phrase?.getD "<unknown status code>" ∧
        (' ' ∉ q.path.toList → readRecord? record.text =
          some (q.method.token, q.path, reply.response.status.code))) ∧
    (r.run tree steps).flatMap Outcome.log =
      (answered steps (r.run tree steps)).map fun a => requestRecord a.1 a.2.status := by
  refine ⟨fun i q asked fresh fresh_built => ?_, fun i q asked => ?_, Router.log_run r tree steps⟩
  · -- A router has no state, so a fresh one is the same.
    obtain rfl := Except.ok.inj (built.symm.trans fresh_built)
    rw [Router.getElem?_run, asked, treeAfter_filter_isChange]
    rfl
  · have answer : (r.run tree steps)[i]? =
        some (.replied (r.handle (treeAfter tree (steps.take i)) q)) := by
      rw [Router.getElem?_run, asked]
      rfl
    cases handled : r.handle (treeAfter tree (steps.take i)) q with
    | error fault => exact .inl ⟨fault, by rw [answer, handled]⟩
    | ok reply =>
      exact .inr ⟨reply, _, by rw [answer, handled], Router.log_of_handle handled,
        requestRecord_text q _, fun free => readRecord?_requestRecord free _⟩

/-- A session in which a page is asked for twice under a policy with a type outside ASCII: while it
is there, and after it was removed. -/
def accentedSession : List Step :=
  [.write ["menu.txt"] (.file [] 0), .request ⟨.get, .origin "/menu.txt" none, .empty⟩,
    .remove ["menu.txt"], .request ⟨.get, .origin "/menu.txt" none, .empty⟩]

/-- The first request is broken off without a record, and the second is answered as if it had never
been made. -/
theorem Router.session_law_accented :
    ∃ r reply, Router.build [] accentedPolicy = .ok r ∧
      (r.run .empty accentedSession)[1]? = some (.replied (.error .notPlain)) ∧
      (r.run .empty accentedSession)[3]? = some (.replied (.ok reply)) ∧
      (r.run (treeAfter .empty [.write ["menu.txt"] (.file [] 0), .remove ["menu.txt"]])
        [.request ⟨.get, .origin "/menu.txt" none, .empty⟩])[0]? = some (.replied (.ok reply)) ∧
      ∃ record, reply.log = [record] ∧ record.text = "INFO GET /menu.txt 404 Not Found" ∧
        readRecord? record.text = some ("GET", "/menu.txt", 404) := by
  have built : Router.build [] accentedPolicy = .ok ⟨[], accentedPolicy, []⟩ := by decide
  obtain ⟨reply, replied, missing⟩ : ∃ reply,
      (Router.run ⟨[], accentedPolicy, []⟩ .empty accentedSession)[3]? =
        some (.replied (.ok reply)) ∧ reply.response.status = .notFound := ⟨_, rfl, rfl⟩
  have law := Router.session_law built .empty accentedSession
  obtain ⟨fault, broken⟩ | ⟨reply', record, replied', logged, text, read⟩ := law.2.1 3 _ rfl
  · rw [replied] at broken
    cases broken
  · obtain rfl : reply = reply' := by simpa [replied] using replied'
    rw [missing] at text read
    refine ⟨_, reply, built, rfl, replied, ?_, record, logged, text, read (by decide)⟩
    rw [← replied]
    exact (law.1 3 _ rfl _ built).symm

end Law

end PreviewServer
