import PreviewServer.Proofs.Offenders
import PreviewServer.Proofs.RequestLog
import PreviewServer.Proofs.ResponseHeaders

/-!
# The exact condition of a fault

A request is broken off at one place only: where the override layer sets a type that is no plain
value. Whether it comes to that is told by the status that the layer sees and by the first rule for
the path; the other rules have no say, whatever their types are. None of this asks for a policy that
was accepted. For an accepted one, the only types that are not plain are those outside ASCII.

## Main definitions

* `HasOddByte`: texts with a byte that is neither a tab nor one of 32 to 126

## Main results

* `overrideTypes_eq_error_iff`: when the override layer breaks a request off
* `hasOddByte_iff_of_legal`: odd bytes in a legal value are those of characters outside ASCII
* `Policy.fault_condition`: when there is a fault, and what is left of the request then
-/

namespace PreviewServer

/-! ## Types that are no plain values -/

/-- Whether a text has a byte that no plain value has: neither a tab nor one of 32 to 126. -/
def HasOddByte (s : String) : Prop :=
  ∃ b ∈ utf8 s, b ≠ 9 ∧ ¬ (32 ≤ b ∧ b ≤ 126)

theorem isPlainValue_eq_false_iff {s : String} : isPlainValue s = false ↔ HasOddByte s := by
  simp [isPlainValue, isPlainValueByte, HasOddByte]

/-- In a legal value, the odd bytes are those of characters outside ASCII. -/
theorem hasOddByte_iff_of_legal {s : String} (legal : isLegalValue s = true) :
    HasOddByte s ↔ ∃ c ∈ s.toList, 128 ≤ c.toNat := by
  rw [← isPlainValue_eq_false_iff, ← Bool.not_eq_true, isPlainValue_iff, not_and]
  simp only [legal, IsAscii, true_implies, not_forall, Nat.not_lt, exists_prop]

/-! ## Faults -/

section Fault

variable {p : Policy} {inner : Request → Response} {q : Request}

/-- **The override layer breaks a request off exactly if the status is one whose type is forced and
the type of the first rule has an odd byte.** -/
theorem overrideTypes_eq_error_iff :
    (∃ fault, overrideTypes p (.ofFunction inner) q = .error fault) ↔
      (p.seenStatus inner q).isTyped = true ∧
        ∃ rule, p.IsFirstRule q.path rule ∧ HasOddByte rule.type := by
  rw [exists_error_iff_not_ok, Policy.exists_overrideTypes_iff]
  simp only [Policy.forcedType?_eq_some_iff, ← isPlainValue_eq_false_iff, not_forall, exists_prop,
    Bool.not_eq_true]
  constructor
  · rintro ⟨_, ⟨typed, rule, first, rfl⟩, odd⟩
    exact ⟨typed, rule, first, odd⟩
  · rintro ⟨typed, rule, first, odd⟩
    exact ⟨_, ⟨typed, rule, first, rfl⟩, odd⟩

/-- The override layer reads nothing of the rules but the first one for the path. -/
theorem overrideTypes_congr_first {p' : Policy} (answer : p'.answerPreflight = p.answerPreflight)
    (first : ∀ rule, p'.IsFirstRule q.path rule ↔ p.IsFirstRule q.path rule) (inner : Handler) :
    overrideTypes p' inner q = overrideTypes p inner q :=
  overrideTypes_congr_seen (Policy.contentTypeFor?_congr first) rfl rfl
    (Policy.innerReply_congr answer inner q)

/-- Nothing is left of a request that was broken off: its client gets no response, and the log no
record. -/
theorem Server.answer_of_fault {server : Server} {tree : FileTree} {fault : Fault}
    (broken : overrideTypes server.router.policy
      (.ofFunction (serveFiles tree server.router.root)) q = .error fault) :
    server.answer tree q = (none, []) := by
  have handled : server.router.handle tree q = .error fault := by
    unfold Router.handle Policy.serve Policy.wrap setHeaders
    rw [broken]
    rfl
  unfold Server.answer
  rw [handled]

/-- **The exact condition of a fault**, for policies that were accepted and for others. The override
layer breaks a request off exactly if it sees a status of 200 to 299 or 304 and the first rule whose
suffix ends the path has a type with a byte other than a tab and 32 to 126. Then there is neither a
response nor a record. Rules that are not the first for the path do not matter. Under an accepted
policy the types with such a byte are those with a character outside ASCII. -/
theorem Policy.fault_condition (p : Policy) (inner : Request → Response) (q : Request) :
    ((∃ fault, overrideTypes p (.ofFunction inner) q = .error fault) ↔
      ((200 ≤ (p.seenStatus inner q).code ∧ (p.seenStatus inner q).code ≤ 299) ∨
        (p.seenStatus inner q).code = 304) ∧
      ∃ rule, p.IsFirstRule q.path rule ∧ HasOddByte rule.type) ∧
    (∀ fault, overrideTypes p (.ofFunction inner) q = .error fault →
      (Outcome.replied (overrideTypes p (.ofFunction inner) q)).log = [] ∧
      ∀ (server : Server) (tree : FileTree), server.router.policy = p →
        serveFiles tree server.router.root = inner → server.answer tree q = (none, [])) ∧
    (∀ p' : Policy, p'.answerPreflight = p.answerPreflight →
      (∀ rule, p'.IsFirstRule q.path rule ↔ p.IsFirstRule q.path rule) →
      overrideTypes p' (.ofFunction inner) q = overrideTypes p (.ofFunction inner) q) ∧
    (∀ fields, p.validate = .ok fields → ∀ rule, p.IsFirstRule q.path rule →
      (HasOddByte rule.type ↔ ∃ c ∈ rule.type.toList, 128 ≤ c.toNat)) := by
  refine ⟨?_, fun fault broken => ⟨?_, ?_⟩, fun p' answer first => ?_,
    fun fields accepted rule first => ?_⟩
  · rw [← Status.isTyped_iff]
    exact overrideTypes_eq_error_iff
  · rw [broken]
    rfl
  · rintro server tree rfl rfl
    exact Server.answer_of_fault broken
  · exact overrideTypes_congr_first answer first _
  · exact hasOddByte_iff_of_legal (Policy.isLegalValue_of_validate accepted first.mem)

/-- A policy that was never accepted: its first type holds a line feed. -/
def brokenRules : Policy := ⟨[], [⟨".js", "text/js\n"⟩, ⟨"s", "text/css"⟩], true⟩

/-- A request for a page. -/
def pageRequest (path : String) : Request := ⟨.get, .origin path none, .empty⟩

/-- The illegal type counts for the path whose first rule has it, and for no other path: that one
gets what it gets without the rule. A type that was accepted breaks a request off by an accent. -/
theorem Policy.fault_condition_brokenRules :
    (∃ fault, overrideTypes brokenRules (.ofFunction fun _ => .bare .notModified)
      (pageRequest "/a.js") = .error fault) ∧
    overrideTypes ⟨[], [⟨"s", "text/css"⟩], true⟩ (.ofFunction fun _ => .bare .notModified)
        (pageRequest "/a.css") =
      overrideTypes brokenRules (.ofFunction fun _ => .bare .notModified)
        (pageRequest "/a.css") ∧
    accentedPolicy.validate = .ok [] ∧ HasOddByte "text/plain; title=café" := by
  have accepted : accentedPolicy.validate = .ok [] := by decide
  refine ⟨?_, ?_, accepted, ?_⟩
  · refine (Policy.fault_condition brokenRules _ _).1.mpr ⟨.inr rfl, ⟨".js", "text/js\n"⟩, ?_, ?_⟩
    · exact Policy.find?_eq_some_iff.mp (by decide)
    · exact isPlainValue_eq_false_iff.mp (by decide)
  · refine (Policy.fault_condition brokenRules _ (pageRequest "/a.css")).2.2.1 _ rfl fun rule => ?_
    rw [← Policy.find?_eq_some_iff, ← Policy.find?_eq_some_iff]
    have same : List.find? (·.matches "/a.css") [⟨"s", "text/css"⟩] =
        brokenRules.contentTypes.find? (·.matches "/a.css") := by decide
    exact iff_of_eq (congrArg (· = some rule) same)
  · have first : accentedPolicy.IsFirstRule accentedRequest.path
        ⟨".txt", "text/plain; title=café"⟩ := Policy.find?_eq_some_iff.mp (by decide)
    have odd := (Policy.fault_condition accentedPolicy (fun _ => .bare .ok) accentedRequest).2.2.2
      [] accepted _ first
    exact odd.mpr ⟨'é', by decide, by decide⟩

end Fault

end PreviewServer
