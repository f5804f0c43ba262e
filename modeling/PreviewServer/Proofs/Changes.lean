import PreviewServer.Proofs.CommandTrace

/-!
# Series of changes

Settings are changed field by field, by changes of one field or of several at once. Only the last
value given to a field counts, and fields do not count for each other. So a series of changes has a
normal form: the default settings with the last value of each field in its place. However two series
with the same last values are interleaved, they lead to the same settings, and these are bound with
the same result when the system gives the same answer.

## Main definitions

* `lastSet?`: the last value that a series of changes gives to a field
* `ServerConfig.after`: the settings after a series of changes
* `SameLast`: series of changes with the same last values
* `EndsInDefaults`: series of changes whose last values are all defaults

## Main results

* `ServerConfig.after_eq`: what a series of changes does to each field
* `ServerConfig.bind_congr`: binding asks the system for one answer only
* `ServerConfig.after_default_eq_iff`: which series of changes lead back to the default settings
* `ServerConfig.normalForm_of_changes`: the normal form of a series of changes
-/

namespace PreviewServer

/-! ## Last values -/

/-- The last value that a series of changes gives to a field, if it gives any. -/
def lastSet? {α : Type} (field : ConfigChange → Option α) (changes : List ConfigChange) :
    Option α :=
  (changes.filterMap field).getLast?

/-- Whether two series of changes give the same last value to each field, or none. -/
structure SameLast (changes changes' : List ConfigChange) : Prop where
  host : lastSet? (·.host) changes = lastSet? (·.host) changes'
  port : lastSet? (·.port) changes = lastSet? (·.port) changes'
  policy : lastSet? (·.policy) changes = lastSet? (·.policy) changes'

/-- Whether the last value that a series of changes gives to each field, if it gives any, is the
default of that field. -/
structure EndsInDefaults (changes : List ConfigChange) : Prop where
  host : ∀ host ∈ lastSet? (·.host) changes, host = .v4 ⟨0, 0, 0, 0⟩
  port : ∀ port ∈ lastSet? (·.port) changes, port = 8000
  policy : ∀ policy ∈ lastSet? (·.policy) changes, policy = devPolicy

/-- The first of several changes gives its value to a field for as long as no other does. -/
theorem getD_lastSet?_cons {α : Type} (field : ConfigChange → Option α) (d : ConfigChange)
    (changes : List ConfigChange) (value : α) :
    (lastSet? field (d :: changes)).getD value =
      (lastSet? field changes).getD ((field d).getD value) := by
  unfold lastSet?
  cases set : field d with
  | none => rw [List.filterMap_cons_none set, Option.getD_none]
  | some first =>
    rw [List.filterMap_cons_some set, List.getLast?_cons, Option.getD_some, Option.getD_some]

/-- What stands for a missing value is found exactly if nothing else is there. -/
theorem getD_eq_self_iff {α : Type} {found : Option α} {value : α} :
    found.getD value = value ↔ ∀ a ∈ found, a = value := by
  cases found <;> simp

/-! ## The settings after changes -/

/-- The settings after a series of changes. -/
def ServerConfig.after (c : ServerConfig) (changes : List ConfigChange) : ServerConfig :=
  changes.foldl ServerConfig.change c

section After

variable {c : ServerConfig} {changes changes' : List ConfigChange}

/-- **What a series of changes does**: it gives each field the last value for it, if there is
one. -/
theorem ServerConfig.after_eq (c : ServerConfig) (changes : List ConfigChange) :
    c.after changes =
      ⟨c.root, (lastSet? (·.host) changes).getD c.host, (lastSet? (·.port) changes).getD c.port,
        (lastSet? (·.policy) changes).getD c.policy⟩ := by
  induction changes generalizing c with
  | nil => rfl
  | cons d changes ih =>
    show (c.change d).after changes = _
    rw [ih, ServerConfig.change_eq]
    simp only [getD_lastSet?_cons]

theorem ServerConfig.after_eq_of_sameLast (same : SameLast changes changes') :
    c.after changes = c.after changes' := by
  rw [ServerConfig.after_eq, ServerConfig.after_eq, same.host, same.port, same.policy]

/-- **The series of changes that lead back** to the default settings. -/
theorem ServerConfig.after_default_eq_iff {root : String} :
    (ServerConfig.default root).after changes = ServerConfig.default root ↔
      EndsInDefaults changes := by
  rw [ServerConfig.after_eq, ServerConfig.default, ServerConfig.mk.injEq]
  simp only [getD_eq_self_iff, true_and]
  exact ⟨fun ⟨host, port, policy⟩ => ⟨host, port, policy⟩,
    fun ⟨host, port, policy⟩ => ⟨host, port, policy⟩⟩

/-- Binding asks the system for one answer only, that for the address of the settings. -/
theorem ServerConfig.bind_congr {network network' : Network}
    (outcome : network ⟨c.host, c.port⟩ = network' ⟨c.host, c.port⟩) :
    c.bind network = c.bind network' := by
  unfold ServerConfig.bind
  rw [outcome]

/-- A state in the course of changes holds the settings after the changes up to it, and is marked as
the default exactly if they are those at the start. -/
theorem ServerConfig.exists_state_of_le {initial : ServerConfig} (state : ConfigState)
    (marked : state.isDefault = true ↔ state.config = initial) {i : Nat} (le : i ≤ changes.length) :
    ∃ reached, (state :: initial.statesFrom state.config changes)[i]? = some reached ∧
      reached.config = state.config.after (changes.take i) ∧
      (reached.isDefault = true ↔ reached.config = initial) := by
  -- Along the changes, from the state that the first of them leads to.
  induction changes generalizing state i with
  | nil =>
    obtain rfl : i = 0 := Nat.le_zero.mp le
    exact ⟨state, rfl, rfl, marked⟩
  | cons d changes ih =>
    cases i with
    | zero => exact ⟨state, rfl, rfl, marked⟩
    | succ i =>
      have le' : i ≤ changes.length := Nat.le_of_succ_le_succ le
      exact ih ⟨state.config.change d, _, _⟩ decide_eq_true_iff le'

end After

/-! ## The normal form -/

/-- **The normal form of a series of changes.** Each setter is a change of one field. After any
series of changes the settings are the default ones with the last value for each field in its place,
so that the directory is the same all along. Series with the same last values lead to the same
settings, which are bound with the same result if the system gives the same answer. The settings are
back at the default ones exactly if each last value is a default, and at each point of the series
the states tell so. -/
theorem ServerConfig.normalForm_of_changes (root : String) :
    (∀ (c : ServerConfig) (host : IpAddress) (port : Port) (policy : Policy),
      c.withHost host = c.change ⟨some host, none, none⟩ ∧
      c.withPort port = c.change ⟨none, some port, none⟩ ∧
      c.withPolicy policy = c.change ⟨none, none, some policy⟩) ∧
    (∀ changes, (ServerConfig.default root).after changes =
      ⟨root, (lastSet? (·.host) changes).getD (.v4 ⟨0, 0, 0, 0⟩),
        (lastSet? (·.port) changes).getD 8000, (lastSet? (·.policy) changes).getD devPolicy⟩) ∧
    (∀ changes changes', SameLast changes changes' →
      ∀ c c', c = (ServerConfig.default root).after changes →
        c' = (ServerConfig.default root).after changes' → c = c' ∧
          ∀ network network' : Network,
            network ⟨c.host, c.port⟩ = network' ⟨c'.host, c'.port⟩ →
              c.bind network = c'.bind network') ∧
    (∀ changes, (ServerConfig.default root).after changes = ServerConfig.default root ↔
      EndsInDefaults changes) ∧
    ∀ (changes : List ConfigChange) (i : Nat), i ≤ changes.length →
      ∃ state, ((ServerConfig.default root).states changes)[i]? = some state ∧
        state.config = (ServerConfig.default root).after (changes.take i) ∧
        state.config.root = root ∧
        (state.isDefault = true ↔ EndsInDefaults (changes.take i)) := by
  refine ⟨fun c host port policy => ⟨rfl, rfl, rfl⟩, (ServerConfig.default root).after_eq, ?_,
    fun changes => ServerConfig.after_default_eq_iff, ?_⟩
  · rintro changes changes' same c c' rfl rfl
    have settings : (ServerConfig.default root).after changes =
        (ServerConfig.default root).after changes' := ServerConfig.after_eq_of_sameLast same
    rw [settings]
    exact ⟨rfl, fun network network' outcome => ServerConfig.bind_congr outcome⟩
  · intro changes i le
    obtain ⟨state, reached, config, marked⟩ :=
      ServerConfig.exists_state_of_le ⟨ServerConfig.default root, false, true⟩
        (iff_of_true rfl rfl) le
    refine ⟨state, reached, config, ?_, ?_⟩
    · rw [config, ServerConfig.after_eq]
      rfl
    · rw [marked, config]
      exact ServerConfig.after_default_eq_iff

/-- Changes to the address of the machine itself and to a taken port, at once. -/
def directChanges : List ConfigChange :=
  [⟨some (.v4 ⟨127, 0, 0, 1⟩), some 8080, some devPolicy⟩]

/-- Changes to the same values on a detour: the port is set twice, and so is the policy. -/
def detourChanges : List ConfigChange :=
  [⟨none, some 1, some ⟨[], [], false⟩⟩, ⟨none, none, some devPolicy⟩,
    ⟨none, some 8080, none⟩, ⟨some (.v4 ⟨127, 0, 0, 1⟩), none, none⟩]

/-- Changes to another port and back. -/
def returningChanges : List ConfigChange := [⟨none, some 9000, none⟩, ⟨none, some 8000, none⟩]

/-- The detour leads where the direct way leads, and a system that refuses everything gives the same
result there as one that has this port taken. The way back ends in the default settings, and the
state in between is not marked as the default. -/
theorem ServerConfig.normalForm_of_changes_detour :
    SameLast detourChanges directChanges ∧
    ((ServerConfig.default "site").after detourChanges).bind busyWorld.network =
      ((ServerConfig.default "site").after directChanges).bind (fun _ => .refused .addressInUse) ∧
    (ServerConfig.default "site").after detourChanges =
      ⟨"site", .v4 ⟨127, 0, 0, 1⟩, 8080, devPolicy⟩ ∧
    (ServerConfig.default "site").after returningChanges = ServerConfig.default "site" ∧
    ∃ state, ((ServerConfig.default "site").states returningChanges)[1]? = some state ∧
      state.isDefault = false := by
  obtain ⟨-, normal, same, back, states⟩ := ServerConfig.normalForm_of_changes "site"
  have lasts : SameLast detourChanges directChanges := ⟨rfl, rfl, rfl⟩
  refine ⟨lasts, ?_, normal detourChanges, ?_, ?_⟩
  · exact (same detourChanges directChanges lasts _ _ rfl rfl).2 _ _ rfl
  · refine (back returningChanges).mpr ⟨nofun, fun _ last => ?_, nofun⟩
    exact (Option.some.inj last).symm
  · obtain ⟨state, reached, -, -, marked⟩ := states returningChanges 1 (by decide)
    refine ⟨state, reached, ?_⟩
    rw [← Bool.not_eq_true, marked]
    intro ends
    exact absurd (ends.port 9000 rfl) (by decide)

end PreviewServer
