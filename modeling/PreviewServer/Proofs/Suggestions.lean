import Mathlib.Order.WellFounded
import PreviewServer.Proofs.CommandTrace

/-!
# Following the suggestions of a run

A run whose port is taken suggests a command with the next port. Whoever follows these suggestions
runs the command with one port after the other, until a port is free or there is no next one.

## Main definitions

* `CommandRun.suggestion?`: the argument that a run suggests
* `argumentsOfRun`: the arguments of each run when the suggestions are followed
* `Network.HasTaken`: which ports are taken in a network

## Main results

* `suggestion?_of_taken`, `suggestion?_of_served`: what one run suggests
* `argumentsOfRun_of_taken`: as long as the ports are taken, each run tries the next one
* `follow_suggestions`: the runs end at the first free port, or else at the last port
-/

namespace PreviewServer

/-! ## Suggestions -/

/-- The argument that a line suggests: what follows the command in it. -/
def suggestedArgument? (line : String) : Option String :=
  let command := "cargo run --bin serve -- ".toList
  if command.isPrefixOf line.toList then some (String.ofList (line.toList.drop command.length))
  else none

/-- The argument that a run suggests. -/
def CommandRun.suggestion? (run : CommandRun) : Option String :=
  run.errorLines.findSome? suggestedArgument?

/-- The arguments of the `n`-th run when each suggestion is followed: at first those given, then the
suggested argument alone. There is no further run after one that suggests nothing. -/
def argumentsOfRun (world : World) (filter : Option String) (arguments : List String) :
    ℕ → Option (List String)
  | 0 => some arguments
  | n + 1 => (argumentsOfRun world filter arguments n).bind fun previous =>
      (runCommand world filter previous).suggestion?.map ([·])

theorem suggestedArgument?_retryCommand (port : Port) :
    suggestedArgument? (retryCommand port) = some port.text := by
  unfold suggestedArgument? retryCommand
  rw [String.toList_append, if_pos (by simp), List.drop_left, String.ofList_toList]

theorem suggestedArgument?_port (rest : String) : suggestedArgument? ("Port " ++ rest) = none := by
  -- The first letters differ.
  unfold suggestedArgument?
  rw [String.toList_append, if_neg]
  simp

section Run

variable {run : CommandRun} {exitCode : ℕ} {stdout : String}

/-- A run whose port is taken suggests the text of the next port, if there is one. -/
theorem suggestion?_of_taken {port : Port}
    (shows : run.Shows exitCode stdout (errorLines (.addressInUse port))) :
    run.suggestion? = (suggestedPort port).map Port.text := by
  have lines : run.errorLines = ("Port " ++ (port.text ++
      " is already in use. Try a different port:")) ::
        ((suggestedPort port).map retryCommand).toList := by
    rw [shows.errorLines, ← String.append_assoc]
    rfl
  rw [CommandRun.suggestion?, lines, List.findSome?_cons, suggestedArgument?_port]
  cases suggestedPort port with
  | none => rfl
  | some next => simp [suggestedArgument?_retryCommand]

theorem suggestion?_of_served (shows : run.Shows exitCode stdout []) :
    run.suggestion? = none := by
  rw [CommandRun.suggestion?, shows.errorLines, List.findSome?_nil]

end Run

/-! ## Taken ports -/

/-- Whether exactly the ports of a set are taken in a network: the system says so when it is asked
to listen at one of them, and listens at every other port. What it does when the choice is left to
it does not matter. -/
structure Network.HasTaken (network : Network) (taken : Set Port) : Prop where
  refused : ∀ q ≠ 0, q ∈ taken →
    ∃ source, network ⟨.anyV4, q⟩ = .refused source ∧ source.kind = .addressInUse
  listening : ∀ q ≠ 0, q ∉ taken →
    ∃ address, network ⟨.anyV4, q⟩ = .listening (.ok address) ∧ address.port = q

/-- A machine that lets the program listen has its occupied ports taken. -/
theorem Machine.hasTaken_network {m : Machine} (descriptors : m.hasDescriptors = true)
    (address : m.hasAddress .anyV4 = true) : m.network.HasTaken {q | q ∈ m.occupied} where
  refused q chosen occupied := by
    refine ⟨.addressInUse, ?_, rfl⟩
    have occupied : q ∈ m.occupied := occupied
    simp [Machine.network, descriptors, address, chosen, occupied]
  listening q chosen free := by
    refine ⟨⟨.anyV4, q⟩, ?_, rfl⟩
    have free : q ∉ m.occupied := free
    simp [Machine.network, descriptors, address, chosen, free]

/-! ## One run after the other -/

section Runs

variable {world : World} {taken : Set Port} {filter : Option String} {arguments : List String}
  {p q : Port}

/-- What one run does: it serves at a free port and reports a taken one. -/
theorem runCommand_of_hasTaken (network : world.network.HasTaken taken) (filter : Option String)
    (pos : q ≠ 0) (chosen : (choosePort arguments.head?).port = q) :
    (q ∈ taken → (runCommand world filter arguments).Shows 1 (choosePort arguments.head?).printed
      (errorLines (.addressInUse q))) ∧
    (q ∉ taken → (runCommand world filter arguments).Shows 0
      ((choosePort arguments.head?).printed ++ (banner q world.projectRoot ++ farewell)) []) := by
  subst chosen
  constructor
  · intro occupied
    obtain ⟨source, refused, kind⟩ := network.refused _ pos occupied
    exact runCommand_of_taken rfl refused kind
  · intro free
    obtain ⟨address, listening, port⟩ := network.listening _ pos free
    rw [← port]
    exact runCommand_of_listening rfl listening

theorem argumentsOfRun_succ {n : ℕ} {a : List String}
    (previous : argumentsOfRun world filter arguments n = some a) :
    argumentsOfRun world filter arguments (n + 1) =
      (runCommand world filter a).suggestion?.map ([·]) := by
  rw [argumentsOfRun, previous, Option.bind_some]

theorem ne_zero_of_le (pos : p ≠ 0) (above : p ≤ q) : q ≠ 0 := by
  rintro rfl
  exact pos (UInt16.le_zero_iff.mp above)

theorem choosePort_text (q : Port) : choosePort (some q.text) = ⟨q, ""⟩ := by
  rw [choosePort, Port.ofText?_text]

/-- **As long as the ports are taken, each run tries the next one**, and none but the first has
anything to notice about its arguments. -/
theorem argumentsOfRun_of_taken (network : world.network.HasTaken taken)
    (chosen : (choosePort arguments.head?).port = p) (pos : p ≠ 0) (above : p ≤ q)
    (occupied : ∀ q', p ≤ q' → q' < q → q' ∈ taken) :
    ∃ a, argumentsOfRun world filter arguments (q.toNat - p.toNat) = some a ∧
      (choosePort a.head?).port = q ∧ (q ≠ p → (choosePort a.head?).printed = "") := by
  -- By the number of runs before this one.
  generalize count : q.toNat - p.toNat = n
  induction n generalizing q with
  | zero =>
    rw [UInt16.le_iff_toNat_le] at above
    obtain rfl : q = p := UInt16.toNat_inj.mp (by omega)
    exact ⟨arguments, rfl, chosen, fun other => absurd rfl other⟩
  | succ n ih =>
    obtain ⟨before, next⟩ : ∃ before : Port, before.toNat + 1 = q.toNat := by
      refine ⟨.ofNat (q.toNat - 1), ?_⟩
      rw [UInt16.toNat_ofNat_of_lt' (Nat.lt_of_le_of_lt (Nat.sub_le _ _) q.toNat_lt)]
      omega
    -- The run for the port before `q` found it taken, and suggested `q`.
    have above' : p ≤ before := UInt16.le_iff_toNat_le.mpr (by omega)
    have below : before < q := UInt16.lt_iff_toNat_lt.mpr (by omega)
    obtain ⟨a, previous, tried, -⟩ := ih above'
      (fun q' hp hq => occupied q' hp (UInt16.lt_trans hq below)) (by omega)
    have suggested := suggestion?_of_taken ((runCommand_of_hasTaken network filter
      (ne_zero_of_le pos above') tried).1 (occupied before above' below))
    rw [suggestedPort_eq_some_iff.mpr next.symm] at suggested
    refine ⟨[q.text], ?_, ?_⟩
    · rw [argumentsOfRun_succ previous, suggested]
      rfl
    · rw [List.head?_cons, choosePort_text]
      exact ⟨rfl, fun _ => rfl⟩

/-- From a port on, there is a first free port, or all ports are taken. -/
theorem exists_first_free (taken : Set Port) (p : Port) :
    ∃ last, p ≤ last ∧
      ((last ∉ taken ∧ ∀ q, p ≤ q → q < last → q ∈ taken) ∨
        (last = 65535 ∧ ∀ q, p ≤ q → q ∈ taken)) := by
  by_cases all : ∀ q, p ≤ q → q ∈ taken
  · refine ⟨65535, ?_, .inr ⟨rfl, all⟩⟩
    exact UInt16.le_iff_toNat_le.mpr (Nat.le_of_lt_succ p.toNat_lt)
  · push Not at all
    obtain ⟨last, ⟨above, free⟩, least⟩ :=
      (measure UInt16.toNat).wf.has_min {q | p ≤ q ∧ q ∉ taken} all
    refine ⟨last, above, .inl ⟨free, fun q hp hq => ?_⟩⟩
    by_contra free'
    exact least q ⟨hp, free'⟩ (UInt16.lt_iff_toNat_lt.mp hq)

/-- **Following the suggestions finds the first free port.** From a port on which a run is tried
first, the runs try the ports one by one: each has its own run, which serves there if the port is
free, and reports it otherwise. They end with the first port that is free, or with port 65535 if
none is; the run for that port suggests nothing. -/
theorem follow_suggestions (network : world.network.HasTaken taken) (filter : Option String)
    (chosen : (choosePort arguments.head?).port = p) (pos : p ≠ 0) :
    ∃ last, p ≤ last ∧
      ((last ∉ taken ∧ ∀ q, p ≤ q → q < last → q ∈ taken) ∨
        (last = 65535 ∧ ∀ q, p ≤ q → q ∈ taken)) ∧
      (∀ q, p ≤ q → q ≤ last →
        ∃ a, argumentsOfRun world filter arguments (q.toNat - p.toNat) = some a ∧
          (choosePort a.head?).port = q ∧ (q ≠ p → (choosePort a.head?).printed = "") ∧
          (q ∈ taken → (runCommand world filter a).Shows 1 (choosePort a.head?).printed
            (("Port " ++ decimal q.toNat ++ " is already in use. Try a different port:") ::
              if q.toNat < 65535 then ["cargo run --bin serve -- " ++ decimal (q.toNat + 1)]
              else [])) ∧
          (q ∉ taken → (runCommand world filter a).Shows 0
            ((choosePort a.head?).printed ++ (banner q world.projectRoot ++ farewell)) [])) ∧
      argumentsOfRun world filter arguments (last.toNat - p.toNat + 1) = none := by
  obtain ⟨last, above, ended⟩ := exists_first_free taken p
  have below : ∀ q, p ≤ q → q < last → q ∈ taken := by
    rcases ended with ⟨-, below⟩ | ⟨-, all⟩
    · exact below
    · exact fun q hp _ => all q hp
  have tried : ∀ q, p ≤ q → q ≤ last →
      ∃ a, argumentsOfRun world filter arguments (q.toNat - p.toNat) = some a ∧
        (choosePort a.head?).port = q ∧ (q ≠ p → (choosePort a.head?).printed = "") :=
    fun q hp hq => argumentsOfRun_of_taken network chosen pos hp
      fun q' hp' hq' => below q' hp' (UInt16.lt_of_lt_of_le hq' hq)
  refine ⟨last, above, ended, fun q hp hq => ?_, ?_⟩
  · obtain ⟨a, run, port, quiet⟩ := tried q hp hq
    rw [← errorLines_addressInUse]
    exact ⟨a, run, port, quiet, runCommand_of_hasTaken network filter (ne_zero_of_le pos hp) port⟩
  · obtain ⟨a, run, port, -⟩ := tried last above (UInt16.le_refl last)
    have ways := runCommand_of_hasTaken network filter (ne_zero_of_le pos above) port
    rw [argumentsOfRun_succ run]
    rcases ended with ⟨free, -⟩ | ⟨rfl, all⟩
    · -- A run that serves suggests nothing.
      rw [suggestion?_of_served (ways.2 free)]
      rfl
    · -- Nor does one for the last port, since there is no next one.
      rw [suggestion?_of_taken (ways.1 (all _ above))]
      rfl

/-- A machine with two neighbouring ports and the last port taken. -/
def crowdedMachine : Machine := ⟨fun _ => true, [8000, 8001, 65535], 49152, true⟩

/-- A world without files and requests on that machine. -/
def crowdedWorld : World := ⟨crowdedMachine.network, "/srv", .empty, []⟩

/-- From an argument that is no port, two suggestions lead to port 8002. From the last port nothing
leads on. -/
theorem follow_suggestions_crowded :
    (∃ a, argumentsOfRun crowdedWorld none ["x"] 2 = some a ∧ (choosePort a.head?).port = 8002 ∧
      (runCommand crowdedWorld none a).Shows 0
        ((choosePort a.head?).printed ++ (banner 8002 "/srv" ++ farewell)) [] ∧
      argumentsOfRun crowdedWorld none ["x"] 3 = none) ∧
    argumentsOfRun crowdedWorld none ["65535"] 1 = none := by
  have network : crowdedWorld.network.HasTaken {q | q ∈ crowdedMachine.occupied} :=
    @Machine.hasTaken_network crowdedMachine rfl rfl
  constructor
  · obtain ⟨last, above, ended, runs, stop⟩ := @follow_suggestions crowdedWorld _ ["x"] 8000
      network none (by decide) (by decide)
    have free : (8002 : Port) ∉ {q | q ∈ crowdedMachine.occupied} :=
      fun h => absurd (show (8002 : Port) ∈ crowdedMachine.occupied from h) (by decide)
    obtain rfl : last = 8002 := by
      rcases ended with ⟨lastFree, below⟩ | ⟨-, all⟩
      · have least : ¬ 8002 < last := fun h => free (below 8002 (by decide) h)
        have other : ∀ q ∈ crowdedMachine.occupied, q ≠ last := by
          rintro q occupied rfl
          exact lastFree occupied
        have first : 8000 ≠ last := other 8000 (by decide)
        have second : 8001 ≠ last := other 8001 (by decide)
        rw [ne_eq, ← UInt16.toNat_inj] at first second
        rw [UInt16.le_iff_toNat_le] at above
        rw [UInt16.lt_iff_toNat_lt] at least
        simp only [UInt16.reduceToNat] at above least first second
        apply UInt16.toNat_inj.mp
        simp only [UInt16.reduceToNat]
        omega
      · exact absurd (all 8002 (by decide)) free
    obtain ⟨a, run, port, -, -, served⟩ := runs 8002 (by decide) (by decide)
    exact ⟨a, run, port, served free, stop⟩
  · obtain ⟨last, above, -, -, stop⟩ := @follow_suggestions crowdedWorld _ ["65535"] 65535
      network none (by decide) (by decide)
    obtain rfl : last = 65535 := by
      rw [UInt16.le_iff_toNat_le] at above
      exact UInt16.toNat_inj.mp (Nat.le_antisymm (Nat.le_of_lt_succ last.toNat_lt) above)
    exact stop

end Runs

end PreviewServer
