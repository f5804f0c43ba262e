import Mathlib.Data.Fintype.Basic
import Mathlib.Data.List.FinRange
import PreviewServer.Proofs.ResponseHeaders

/-!
# The order of the rules

The first rule whose suffix ends a path decides, so the order of the rules matters, but only between
rules of which one covers the other. Two suffixes of one path are suffixes of each other in one of
the two directions, and so rules of which none covers another never meet at a path. A rule that an
earlier one covers never comes to its turn; every other rule does, for its own suffix at least.

## Main definitions

* `TypeRule.Covers`: rules whose suffix ends that of another
* `AreIndependent`: rules of which none covers another
* `Policy.Selects`: the place of the rule that decides for a path
* `Policy.IsShadowed`: the places of rules that an earlier one covers
* `Policy.withoutShadowed`: a policy without such rules

## Main results

* `TypeRule.covers_or_covers`: of two rules that apply to a path, one covers the other
* `Policy.exists_selects_iff`: the rules that are shadowed are those that never decide
* `Policy.independent_order`: independent rules may stand in any order
* `Policy.shadowed_rules`: which rules are dead, and that nothing changes without them
-/

namespace PreviewServer

/-! ## Rules that cover others -/

/-- Whether a rule covers another: its suffix ends that of the other. -/
def TypeRule.Covers (rule other : TypeRule) : Prop :=
  utf8 rule.suffix <:+ utf8 other.suffix

instance : DecidableRel TypeRule.Covers := fun rule other =>
  inferInstanceAs (Decidable (utf8 rule.suffix <:+ utf8 other.suffix))

section Covers

variable {rule other : TypeRule} {path : String}

/-- A rule applies to every path to which a rule applies that it covers. -/
theorem TypeRule.Covers.matches (covers : rule.Covers other) (applies : other.matches path = true) :
    rule.matches path = true :=
  TypeRule.matches_iff.mpr (covers.trans (TypeRule.matches_iff.mp applies))

/-- Taken as a path, a suffix gets every rule that covers its own. -/
theorem TypeRule.matches_suffix_iff : rule.matches other.suffix = true ↔ rule.Covers other :=
  TypeRule.matches_iff

/-- **Of two rules that apply to a path, one covers the other.** -/
theorem TypeRule.covers_or_covers (applies : rule.matches path = true)
    (applies' : other.matches path = true) : rule.Covers other ∨ other.Covers rule :=
  List.suffix_or_suffix_of_suffix (TypeRule.matches_iff.mp applies)
    (TypeRule.matches_iff.mp applies')

end Covers

/-! ## Independent rules -/

/-- Whether no rule of a list covers another one in it, before or behind it. Rules with the same
suffix cover each other. -/
def AreIndependent (rules : List TypeRule) : Prop :=
  rules.Pairwise fun rule other => ¬ rule.Covers other ∧ ¬ other.Covers rule

instance : DecidablePred AreIndependent := fun rules =>
  inferInstanceAs (Decidable (rules.Pairwise _))

section Independent

variable {rules rules' : List TypeRule}

/-- At most one of several independent rules applies to a path. -/
theorem AreIndependent.countP_le_one (independent : AreIndependent rules) (path : String) :
    rules.countP (·.matches path) ≤ 1 := by
  induction independent with
  | nil => simp
  | @cons rule rules apart _ ih =>
    rw [List.countP_cons]
    split
    · -- A rule that applies beside this one would cover it, or be covered by it.
      rename_i applies
      have alone : rules.countP (·.matches path) = 0 := by
        rw [List.countP_eq_zero]
        intro other listed applies'
        rcases TypeRule.covers_or_covers applies applies' with covers | covers
        · exact (apart other listed).1 covers
        · exact (apart other listed).2 covers
      omega
    · exact ih

/-- What at most one member of a list passes is found wherever it stands. -/
theorem find?_eq_of_perm {α : Type} {test : α → Bool} {l l' : List α} (perm : l'.Perm l)
    (unique : l.countP test ≤ 1) : l'.find? test = l.find? test := by
  have passing : (l'.filter test).Perm (l.filter test) := perm.filter test
  rw [List.countP_eq_length_filter] at unique
  rw [← List.head?_filter, ← List.head?_filter]
  -- There is one member at most to rearrange.
  match members : l.filter test, unique with
  | [], _ =>
    rw [members] at passing
    rw [List.perm_nil.mp passing]
  | [a], _ =>
    rw [members] at passing
    rw [List.perm_singleton.mp passing]

/-- **Independent rules may stand in any order.** The rules of the policy for previews are
independent. Of any policy whose rules are, the rules may be put into another order without a
difference to the type of any path, and at most one of them applies to a path. -/
theorem Policy.independent_order :
    AreIndependent devPolicy.contentTypes ∧
    ∀ p : Policy, AreIndependent p.contentTypes →
      ∀ rules : List TypeRule, rules.Perm p.contentTypes → ∀ path : String,
        { p with contentTypes := rules }.contentTypeFor? path = p.contentTypeFor? path ∧
        p.contentTypes.countP (·.matches path) ≤ 1 := by
  refine ⟨by decide, ?_⟩
  intro p independent rules perm path
  have one := independent.countP_le_one path
  refine ⟨?_, one⟩
  rw [Policy.contentTypeFor?, Policy.contentTypeFor?, find?_eq_of_perm perm one]

/-- The rules for previews may be turned around. Those of `twoRules` are not independent, and there
the order counts. -/
theorem Policy.independent_order_reversed :
    { devPolicy with contentTypes := devPolicy.contentTypes.reverse }.contentTypeFor? "/a.min.js" =
        some "application/javascript" ∧
      ¬ AreIndependent twoRules.contentTypes ∧
      { twoRules with contentTypes := twoRules.contentTypes.reverse }.contentTypeFor? "/a.min.js" ≠
        twoRules.contentTypeFor? "/a.min.js" := by
  refine ⟨?_, by decide, by decide⟩
  obtain ⟨independent, order⟩ := Policy.independent_order
  rw [(order devPolicy independent _ (List.reverse_perm _) "/a.min.js").1]
  decide

end Independent

/-! ## Shadowed rules -/

section Shadow

variable (p : Policy)

/-- Whether the rule at a place decides for a path: it applies, and none before it does. -/
def Policy.Selects (path : String) (j : Fin p.contentTypes.length) : Prop :=
  p.contentTypes[j].matches path = true ∧ ∀ i < j, p.contentTypes[i].matches path = false

/-- Whether a rule before the one at a place covers it. -/
def Policy.IsShadowed (j : Fin p.contentTypes.length) : Prop :=
  ∃ i < j, p.contentTypes[i].Covers p.contentTypes[j]

instance : DecidablePred p.IsShadowed := fun j =>
  inferInstanceAs (Decidable (∃ i, i < j ∧ p.contentTypes[i].Covers p.contentTypes[j]))

/-- A policy without all the rules that are shadowed. -/
def Policy.withoutShadowed : Policy :=
  { p with
    contentTypes := ((List.finRange p.contentTypes.length).filter (¬ p.IsShadowed ·)).map
      fun j => p.contentTypes[j] }

variable {p} {path : String} {j : Fin p.contentTypes.length}

theorem Policy.findFinIdx?_eq_some_iff :
    p.contentTypes.findFinIdx? (·.matches path) = some j ↔ p.Selects path j := by
  rw [List.findFinIdx?_eq_some_iff]
  simp only [Policy.Selects, Bool.not_eq_true]

/-- The rule that decides gives the path its type. -/
theorem Policy.contentTypeFor?_of_selects (selects : p.Selects path j) :
    p.contentTypeFor? path = some p.contentTypes[j].type := by
  rw [Policy.contentTypeFor?, List.find?_eq_map_findFinIdx?_getElem,
    Policy.findFinIdx?_eq_some_iff.mpr selects]
  rfl

/-- A rule that decides is not shadowed: the one that covers it would apply as well, and earlier. -/
theorem Policy.Selects.not_isShadowed (selects : p.Selects path j) : ¬ p.IsShadowed j := by
  rintro ⟨i, earlier, covers⟩
  have applies := covers.matches selects.1
  rw [selects.2 i earlier] at applies
  cases applies

/-- A rule that is not shadowed decides for its own suffix, taken as a path. -/
theorem Policy.selects_suffix (lit : ¬ p.IsShadowed j) :
    p.Selects p.contentTypes[j].suffix j := by
  refine ⟨TypeRule.matches_suffix_iff.mpr (List.suffix_refl _), ?_⟩
  intro i earlier
  rw [← Bool.not_eq_true, TypeRule.matches_suffix_iff]
  exact fun covers => lit ⟨i, earlier, covers⟩

/-- **The rules that are shadowed are those that never decide.** -/
theorem Policy.exists_selects_iff : (∃ path, p.Selects path j) ↔ ¬ p.IsShadowed j :=
  ⟨fun ⟨_, selects⟩ => selects.not_isShadowed, fun lit => ⟨_, Policy.selects_suffix lit⟩⟩

theorem find?_finRange_eq_some {n : ℕ} {test : Fin n → Bool} {j : Fin n} (passes : test j = true)
    (first : ∀ i < j, test i = false) : (List.finRange n).find? test = some j := by
  refine List.find?_eq_some_iff_getElem.mpr ⟨passes, j, by simp, by simp, ?_⟩
  intro i earlier
  simpa using first ⟨i, by omega⟩ earlier

/-- The first rule that applies to a path is also the first among those that are not shadowed. -/
theorem Policy.find?_finRange (p : Policy) (path : String) :
    (List.finRange p.contentTypes.length).find?
        (fun i => decide (¬ p.IsShadowed i ∧ p.contentTypes[i].matches path = true)) =
      p.contentTypes.findFinIdx? (·.matches path) := by
  cases first : p.contentTypes.findFinIdx? (·.matches path) with
  | none =>
    rw [List.findFinIdx?_eq_none_iff] at first
    rw [List.find?_eq_none]
    intro i _ applies
    exact first p.contentTypes[i] (List.getElem_mem _) (of_decide_eq_true applies).2
  | some j =>
    have selects := Policy.findFinIdx?_eq_some_iff.mp first
    apply find?_finRange_eq_some
    · exact decide_eq_true ⟨selects.not_isShadowed, selects.1⟩
    · intro i earlier
      rw [selects.2 i earlier, decide_eq_false_iff_not]
      exact fun applies => Bool.false_ne_true applies.2

/-- **Nothing changes without the shadowed rules.** They are taken away all at once, although a rule
that shadows another may be shadowed itself: the first rule that applies to a path never is. -/
theorem Policy.contentTypeFor?_withoutShadowed (p : Policy) (path : String) :
    p.withoutShadowed.contentTypeFor? path = p.contentTypeFor? path := by
  have found : p.withoutShadowed.contentTypes.find? (·.matches path) =
      p.contentTypes.find? (·.matches path) := by
    rw [@List.find?_eq_map_findFinIdx?_getElem _ p.contentTypes, ← p.find?_finRange path]
    simp only [Policy.withoutShadowed, List.find?_map, List.find?_filter, Function.comp_def,
      decide_eq_true_eq]
  rw [Policy.contentTypeFor?, found, Policy.contentTypeFor?]

end Shadow

/-- **Shadowed rules are dead, and no others.** A rule decides for some path exactly if no rule
before it has a suffix that ends its own, and a path gets its type from the rule that decides.
Without all the shadowed rules every path has the type that it had. -/
theorem Policy.shadowed_rules (p : Policy) :
    (∀ j : Fin p.contentTypes.length, (∃ path, p.Selects path j) ↔
      ∀ i < j, ¬ utf8 p.contentTypes[i].suffix <:+ utf8 p.contentTypes[j].suffix) ∧
    (∀ (path : String) (j : Fin p.contentTypes.length), p.Selects path j →
      p.contentTypeFor? path = some p.contentTypes[j].type) ∧
    ∀ path, p.withoutShadowed.contentTypeFor? path = p.contentTypeFor? path := by
  refine ⟨?_, ?_, p.contentTypeFor?_withoutShadowed⟩
  · intro j
    rw [Policy.exists_selects_iff]
    simp only [Policy.IsShadowed, TypeRule.Covers, not_exists, not_and]
  · intro path j selects
    exact Policy.contentTypeFor?_of_selects selects

/-- A policy with a chain of shadows: the second rule is shadowed and shadows the third. -/
def shadyPolicy : Policy :=
  ⟨[], [⟨".js", "text/a"⟩, ⟨"n.js", "text/b"⟩, ⟨".min.js", "text/c"⟩, ⟨"", "text/d"⟩], true⟩

/-- The third rule never decides and the last one does, and only two rules are left without the
shadowed ones. -/
theorem Policy.shadowed_rules_shadyPolicy :
    (¬ ∃ path, shadyPolicy.Selects path ⟨2, by decide⟩) ∧
    (∃ path, shadyPolicy.Selects path ⟨3, by decide⟩ ∧
      shadyPolicy.contentTypeFor? path = some "text/d") ∧
    shadyPolicy.withoutShadowed.contentTypes = [⟨".js", "text/a"⟩, ⟨"", "text/d"⟩] ∧
    ∀ path,
      shadyPolicy.withoutShadowed.contentTypeFor? path = shadyPolicy.contentTypeFor? path := by
  obtain ⟨decides, types, same⟩ := Policy.shadowed_rules shadyPolicy
  refine ⟨?_, ?_, by decide, same⟩
  · rw [decides]
    decide
  · obtain ⟨path, selects⟩ := (decides ⟨3, by decide⟩).mpr (by decide)
    exact ⟨path, selects, types path _ selects⟩

end PreviewServer
