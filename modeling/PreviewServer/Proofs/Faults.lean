import PreviewServer.Proofs.Layers
import PreviewServer.Proofs.Session

/-!
# Faults

A policy is checked with one class of values and applied with a smaller one: legal values may hold
any character outside ASCII, and types are set as plain values only. So an accepted policy breaks
off exactly those requests for which it would force a type that is not in ASCII.

## Main definitions

* `IsAscii`: texts in ASCII
* `Policy.seenStatus`: the status that the override layer sees
* `Policy.Breaks`: whether a policy has a type outside ASCII to force

## Main results

* `isPlainValue_iff`: the plain values are the legal ones in ASCII
* `Policy.forced_plain_iff`: when the type that an accepted policy forces is a plain value
* `Router.exists_handle_iff_not_breaks`: when a router replies to a request
* `Policy.replied_iff_not_breaks`: when an accepted policy replies to a request
-/

namespace PreviewServer

/-! ## Legal and plain values -/

/-- Whether a text is in ASCII. -/
def IsAscii (s : String) : Prop := ∀ c ∈ s.toList, c.toNat < 128

instance : DecidablePred IsAscii := fun s =>
  decidable_of_iff (s.toList.all (·.toNat < 128) = true) (by simp [IsAscii])

theorem isPlainValueByte_iff {b : UInt8} :
    isPlainValueByte b = true ↔ isLegalValueByte b = true ∧ b < 128 := by
  simp only [isPlainValueByte, isLegalValueByte, Bool.or_eq_true, Bool.and_eq_true,
    decide_eq_true_eq, UInt8.le_iff_toNat_le, UInt8.lt_iff_toNat_lt, ← UInt8.toNat_inj, ne_eq,
    UInt8.reduceToNat]
  omega

/-- A text is in ASCII exactly if its bytes are. -/
theorem isAscii_iff_utf8 {s : String} : IsAscii s ↔ ∀ b ∈ utf8 s, b < 128 := by
  simp only [IsAscii, utf8, List.mem_flatMap, forall_exists_index, and_imp]
  constructor
  · intro ascii b c hc hb
    have small : c.toNat < 128 := ascii c hc
    rw [utf8EncodeChar_of_le (by omega), List.mem_singleton] at hb
    subst hb
    simp only [UInt8.lt_iff_toNat_lt, UInt8.toNat_ofNat', UInt8.reduceToNat]
    omega
  · intro small c hc
    by_contra large
    -- Every byte of a character outside ASCII is at least 128, and it has a first one.
    obtain ⟨b, hb⟩ := List.exists_mem_of_ne_nil _ (String.utf8EncodeChar_ne_nil (c := c))
    have := le_of_mem_utf8EncodeChar (by omega) hb
    exact absurd (small b c hc hb) (by simpa using this)

/-- **The plain values are the legal ones in ASCII.** -/
theorem isPlainValue_iff {s : String} :
    isPlainValue s = true ↔ isLegalValue s = true ∧ IsAscii s := by
  simp only [isPlainValue, isLegalValue, List.all_eq_true, isPlainValueByte_iff, isAscii_iff_utf8]
  exact forall₂_and

/-! ## When a request is replied to -/

/-- The status that the override layer of a policy sees: a success where the policy answers
preflights and the request is one, or else that of the inner response. -/
def Policy.seenStatus (p : Policy) (inner : Request → Response) (q : Request) : Status :=
  if p.answerPreflight = true ∧ q.method.token = "OPTIONS" then .ok else (inner q).status

/-- Whether a policy has a type outside ASCII to force onto a response to a request: the status is
one whose type is forced, and the first rule for the path has such a type. -/
def Policy.Breaks (p : Policy) (q : Request) (status : Status) : Prop :=
  status.isTyped = true ∧
    ∃ rule, p.contentTypes.find? (·.matches q.path) = some rule ∧ ¬ IsAscii rule.type

section Replies

variable {p : Policy} {fields : List Field}

theorem Policy.exists_seen (p : Policy) (inner : Request → Response) (q : Request) :
    ∃ seen, p.innerReply (.ofFunction inner) q = .ok seen ∧
      seen.response.status = p.seenStatus inner q := by
  unfold Policy.seenStatus
  split
  · rename_i answered
    exact ⟨_, Policy.innerReply_of_answers answered _, rfl⟩
  · rename_i handedOn
    exact ⟨_, Policy.innerReply_of_not_answers handedOn _, rfl⟩

theorem Policy.exists_overrideTypes_iff {inner : Request → Response} {q : Request} :
    (∃ reply, overrideTypes p (.ofFunction inner) q = .ok reply) ↔
      ∀ type, p.forcedType? q (p.seenStatus inner q) = some type → isPlainValue type = true := by
  obtain ⟨seen, hseen, status⟩ := p.exists_seen inner q
  simp only [overrideTypes_eq_ok_iff, hseen, Except.ok.injEq, exists_eq_left', status]
  exact ⟨fun ⟨_, plain, _⟩ => plain, fun plain => ⟨_, plain, rfl⟩⟩

/-- An accepted policy has only plain types to force, unless it breaks the request off. -/
theorem Policy.forced_plain_iff (accepted : p.validate = .ok fields) {q : Request}
    {status : Status} :
    (∀ type, p.forcedType? q status = some type → isPlainValue type = true) ↔
      ¬ p.Breaks q status := by
  unfold Policy.forcedType? Policy.contentTypeFor? Policy.Breaks
  by_cases typed : status.isTyped = true
  · cases found : p.contentTypes.find? (·.matches q.path) with
    | none => simp
    | some rule =>
      -- Validation saw the type of every rule, so only ASCII is left to ask for.
      have legal := Policy.isLegalValue_of_validate accepted (List.mem_of_find?_eq_some found)
      simp [typed, isPlainValue_iff, legal]
  · simp [typed]

/-- The stages after the override layer break nothing off. -/
theorem Policy.exists_serve_iff {inner : Handler} {q : Request} :
    (∃ reply, p.serve fields inner q = .ok reply) ↔
      ∃ reply, overrideTypes p inner q = .ok reply := by
  simp only [Policy.serve_eq_ok_iff, overrideTypes_eq_ok_iff]
  constructor
  · rintro ⟨_, seen, hseen, plain, -⟩
    exact ⟨_, seen, hseen, plain, rfl⟩
  · rintro ⟨_, seen, hseen, plain, -⟩
    exact ⟨_, seen, hseen, plain, rfl⟩

/-- The requests to which the override layer of an accepted policy replies. -/
theorem Policy.exists_overrideTypes_iff_not_breaks (accepted : p.validate = .ok fields)
    (inner : Request → Response) (q : Request) :
    (∃ reply, overrideTypes p (.ofFunction inner) q = .ok reply) ↔
      ¬ p.Breaks q (p.seenStatus inner q) :=
  Policy.exists_overrideTypes_iff.trans (Policy.forced_plain_iff accepted)

/-- The requests to which a router replies. -/
theorem Router.exists_handle_iff_not_breaks {root : List String} {r : Router}
    (built : Router.build root p = .ok r) (tree : FileTree) (q : Request) :
    (∃ reply, r.handle tree q = .ok reply) ↔
      ¬ p.Breaks q (p.seenStatus (serveFiles tree root) q) := by
  obtain ⟨fields, accepted, rfl⟩ := Router.build_eq_ok_iff.mp built
  exact Policy.exists_serve_iff.trans (Policy.exists_overrideTypes_iff_not_breaks accepted _ q)

/-- **An accepted policy breaks off exactly the requests for which it has a type outside ASCII to
force**: in its override layer around any service, in the sessions of its routers, and on the
servers that are bound with it. -/
theorem Policy.replied_iff_not_breaks (accepted : p.validate = .ok fields) :
    (∀ (inner : Request → Response) (q : Request),
      (∃ reply, overrideTypes p (.ofFunction inner) q = .ok reply) ↔
        ¬ p.Breaks q (p.seenStatus inner q)) ∧
    (∀ root, ∃ r, Router.build root p = .ok r ∧
      ∀ (tree : FileTree) (steps : List Step) (i : ℕ) (q : Request),
        steps[i]? = some (.request q) →
          ((∃ reply, (r.run tree steps)[i]? = some (.replied (.ok reply))) ↔
            ¬ p.Breaks q (p.seenStatus (serveFiles (treeAfter tree (steps.take i)) root) q))) ∧
    (∀ (c : ServerConfig) (network : Network) (server : Server),
      c.policy = p → c.bind network = .ok server →
        ∀ (tree : FileTree) (requests : List Request) (i : ℕ) (q : Request),
          requests[i]? = some q →
            ((∃ response, (server.exchange tree requests).responses[i]? = some (some response)) ↔
              ¬ p.Breaks q (p.seenStatus (serveFiles tree (components c.root)) q))) := by
  refine ⟨Policy.exists_overrideTypes_iff_not_breaks accepted, fun root => ?_, ?_⟩
  · have built : Router.build root p = .ok ⟨root, p, fields⟩ :=
      Router.build_eq_ok_iff.mpr ⟨fields, accepted, rfl⟩
    refine ⟨_, built, fun tree steps i q asked => ?_⟩
    rw [Router.exists_reply_run_iff _ _ asked, Router.exists_handle_iff_not_breaks built]
  · rintro c network server rfl bound tree requests i q asked
    rw [Server.exists_response_iff _ _ asked,
      Router.exists_handle_iff_not_breaks (ServerConfig.router_of_bind bound)]

end Replies

/-- A policy whose only type is a legal value outside ASCII. -/
def accentedPolicy : Policy where
  headers := []
  contentTypes := [⟨".txt", "text/plain; title=café"⟩]
  answerPreflight := true

/-- A preflight for a path with the suffix of `accentedPolicy`. -/
def accentedRequest : Request := ⟨.options, .origin "/menu.txt" none, .empty⟩

/-- Acceptance alone does not keep requests from being broken off. -/
theorem accepted_policy_can_break :
    ¬ ∀ (p : Policy) (fields : List Field), p.validate = .ok fields →
      ∀ (inner : Request → Response) (q : Request),
        ∃ reply, overrideTypes p (.ofFunction inner) q = .ok reply := by
  intro replies
  obtain ⟨reply, replied⟩ :=
    replies accentedPolicy [] (by decide) (fun _ => .bare .notFound) accentedRequest
  have broken : overrideTypes accentedPolicy (.ofFunction fun _ => .bare .notFound)
      accentedRequest = .error .notPlain := by decide
  rw [broken] at replied
  cases replied

/-- `accentedPolicy` is accepted; a preflight for its suffix is broken off, and a request that finds
nothing there is replied to. -/
theorem accentedPolicy_replied_iff :
    accentedPolicy.validate = .ok [] ∧
      (¬ ∃ reply, overrideTypes accentedPolicy (.ofFunction fun _ => .bare .notFound)
        accentedRequest = .ok reply) ∧
      ∃ reply, overrideTypes accentedPolicy (.ofFunction fun _ => .bare .notFound)
        ⟨.get, .origin "/menu.txt" none, .empty⟩ = .ok reply := by
  have accepted : accentedPolicy.validate = .ok [] := by decide
  refine ⟨accepted, ?_, ?_⟩
  · rw [(Policy.replied_iff_not_breaks accepted).1, not_not]
    exact ⟨by decide, ⟨".txt", "text/plain; title=café"⟩, by decide, by decide⟩
  · rw [(Policy.replied_iff_not_breaks accepted).1]
    rintro ⟨typed, -⟩
    revert typed
    decide

end PreviewServer
