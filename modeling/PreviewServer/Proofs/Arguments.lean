import PreviewServer.Proofs.CommandTrace

/-!
# What a run owes to its arguments

A run reads its arguments once, to choose a port, and prints a notice if the first of them names
none. Everything after that hangs on the port alone. The notice goes to the output and not through
the log, and so do the banner and the farewell, so a log filter takes nothing away from them.

## Main definitions

* `withoutNotice`: an output without the notice at its front

## Main results

* `withoutNotice_stdout`: what is left of the output of a run without the notice
* `runCommand_eq_of_port`: runs for one port differ in the notice alone
* `runCommand_determined_by_port`: what arguments and filters have no influence on
-/

namespace PreviewServer

/-! ## The notice -/

/-- An output without the notice about the port at its front, if it begins with one. -/
def withoutNotice (printed : String) : String :=
  let notice := "Invalid port number. Using default port 8000.\n".toList
  if notice.isPrefixOf printed.toList then String.ofList (printed.toList.drop notice.length)
  else printed

theorem withoutNotice_append (rest : String) :
    withoutNotice (invalidPortNotice ++ rest) = rest := by
  unfold withoutNotice
  rw [invalidPortNotice_eq, String.toList_append, if_pos (by simp), List.drop_left,
    String.ofList_toList]

theorem withoutNotice_of_head?_ne {printed : String} (other : printed.toList.head? ≠ some 'I') :
    withoutNotice printed = printed := by
  unfold withoutNotice
  rw [if_neg]
  intro begins
  rw [List.isPrefixOf_iff_prefix] at begins
  obtain ⟨rest, same⟩ := begins
  apply other
  rw [← same]
  rfl

theorem printed_choosePort (argument : Option String) :
    (choosePort argument).printed = "" ∨ (choosePort argument).printed = invalidPortNotice := by
  unfold choosePort
  split
  · exact .inl rfl
  · split
    · exact .inl rfl
    · exact .inr rfl

section Run

variable {world : World} {filter : Option String} {arguments : List String}

theorem exists_banner_eq (port : Port) (root : String) :
    ∃ rest, banner port root = "Starting HTTP server on port " ++ rest := by
  unfold banner
  simp only [String.append_assoc]
  exact ⟨_, rfl⟩

/-- What is printed while serving does not look like the notice. -/
theorem head?_printed_serveProject (world : World) (port : Port) :
    (serveProject world port).printed.toList.head? ≠ some 'I' := by
  unfold serveProject
  split
  · simp
  · -- The banner begins with another letter.
    rename_i server _
    obtain ⟨rest, begins⟩ := exists_banner_eq server.address.port server.root
    have letter : "Starting HTTP server on port ".toList.head? = some 'S' := by decide
    rw [begins, String.append_assoc, String.toList_append, List.head?_append, letter,
      Option.some_or]
    decide

/-- Without the notice, the output of a run is what is printed while serving. -/
theorem withoutNotice_stdout :
    withoutNotice (runCommand world filter arguments).stdout =
      (serveProject world (choosePort arguments.head?).port).printed := by
  have other := head?_printed_serveProject world (choosePort arguments.head?).port
  show withoutNotice ((choosePort arguments.head?).printed ++ _) = _
  rcases printed_choosePort arguments.head? with silent | noticed
  · rw [silent, String.empty_append]
    exact withoutNotice_of_head?_ne other
  · rw [noticed]
    exact withoutNotice_append _

end Run

/-! ## Two runs -/

section Runs

variable {world : World} {a b : List String}

/-- Runs for one port differ in the notice alone. -/
theorem runCommand_eq_of_port (filter : Option String)
    (same : (choosePort a.head?).port = (choosePort b.head?).port) :
    runCommand world filter a =
      { runCommand world filter b with
        stdout := (choosePort a.head?).printed ++
          (serveProject world (choosePort b.head?).port).printed } := by
  unfold runCommand
  simp only [same]

/-- **A run depends on its arguments through the port alone.** Two runs for one port have the same
exit code, the same responses and, without the notice, the same output, whatever their log filters;
with one filter their logs and their error streams are the same too. So nothing but the first
argument counts; arguments that name the default port or no port at all make a run differ from one
without arguments in the notice only; and no filter silences the notice or the banner. -/
theorem runCommand_determined_by_port (world : World) :
    (∀ a b : List String, (choosePort a.head?).port = (choosePort b.head?).port →
      ∀ filter filter' : Option String,
        (runCommand world filter a).exitCode = (runCommand world filter' b).exitCode ∧
        (runCommand world filter a).responses = (runCommand world filter' b).responses ∧
        withoutNotice (runCommand world filter a).stdout =
          withoutNotice (runCommand world filter' b).stdout ∧
        (filter = filter' →
          (runCommand world filter a).logLines = (runCommand world filter' b).logLines ∧
          (runCommand world filter a).stderr = (runCommand world filter' b).stderr)) ∧
    (∀ filter argument rest,
      runCommand world filter (argument :: rest) = runCommand world filter [argument]) ∧
    (∀ filter arguments notice, Selects arguments 8000 notice →
      runCommand world filter arguments =
        { runCommand world filter [] with
          stdout := notice ++ (runCommand world filter []).stdout }) ∧
    (∀ filter arguments port notice, Selects arguments port notice →
      (∀ address, world.network ⟨.anyV4, port⟩ = .listening (.ok address) →
        (runCommand world filter arguments).stdout =
          notice ++ (banner address.port world.projectRoot ++ farewell)) ∧
      ((∀ address, world.network ⟨.anyV4, port⟩ ≠ .listening (.ok address)) →
        (runCommand world filter arguments).stdout = notice)) := by
  refine ⟨fun a b same filter filter' => ⟨?_, ?_, ?_, ?_⟩, fun filter argument rest => rfl,
    fun filter arguments notice selected => ?_, fun filter arguments port notice selected => ?_⟩
  · rw [runCommand_eq_of_port filter same]
    rfl
  · rw [runCommand_eq_of_port filter same]
    rfl
  · rw [withoutNotice_stdout, withoutNotice_stdout, same]
  · rintro rfl
    rw [runCommand_eq_of_port filter same]
    exact ⟨rfl, rfl⟩
  · have chosen := selects_iff.mp selected
    have same : (choosePort arguments.head?).port = (choosePort ([] : List String).head?).port := by
      rw [chosen]
      rfl
    -- Without arguments there is no notice, so all that is printed comes from serving.
    have silent : (runCommand world filter []).stdout =
        (serveProject world (choosePort ([] : List String).head?).port).printed :=
      String.empty_append
    rw [runCommand_eq_of_port filter same, chosen, silent]
  · have chosen := selects_iff.mp selected
    constructor
    · intro address listening
      exact (runCommand_of_listening chosen listening).stdout
    · intro failed
      rcases (world.network ⟨.anyV4, port⟩).listening_or_taken_or_failed with
        ⟨address, listening⟩ | ⟨source, refused, taken⟩ | ⟨source, failed'⟩
      · exact absurd listening (failed address)
      · exact (runCommand_of_taken chosen refused taken).stdout
      · exact (runCommand_of_bindError chosen failed').stdout

/-- A machine on which port 8000 is taken, and one request for a page. -/
def visitedWorld : World where
  network := Machine.network ⟨fun _ => true, [8000], 49152, true⟩
  projectRoot := "/srv"
  tree := .empty
  requests := [⟨.get, .origin "/a.js" none, .empty⟩]

/-- Three spellings of the default port and an argument that is no port make the same run up to the
notice; with the log off, a run at a port of the system's choice still shows its banner. -/
theorem runCommand_determined_by_port_visitedWorld :
    runCommand visitedWorld none ["+08000", "9000"] = runCommand visitedWorld none [] ∧
    runCommand visitedWorld none ["8000"] = runCommand visitedWorld none [] ∧
    runCommand visitedWorld none ["-1"] =
      { runCommand visitedWorld none [] with
        stdout := "Invalid port number. Using default port 8000.\n" ++
          (runCommand visitedWorld none []).stdout } ∧
    (runCommand visitedWorld (some "off") ["00"]).responses =
      (runCommand visitedWorld (some "trace") ["0", "x"]).responses ∧
    (runCommand visitedWorld (some "off") ["00"]).stdout =
      "" ++ (banner 49152 "/srv" ++ farewell) := by
  obtain ⟨agree, -, alike, shown⟩ := runCommand_determined_by_port visitedWorld
  have plus : Selects ["+08000", "9000"] 8000 "" := selects_iff.mpr (by decide)
  have plain : Selects ["8000"] 8000 "" := selects_iff.mpr (by decide)
  have negative : Selects ["-1"] 8000 "Invalid port number. Using default port 8000.\n" :=
    selects_iff.mpr (by decide)
  have zero : Selects ["00"] 0 "" := selects_iff.mpr (by decide)
  refine ⟨?_, ?_, alike none _ _ negative, ?_, ?_⟩
  · rw [alike none _ _ plus, String.empty_append]
  · rw [alike none _ _ plain, String.empty_append]
  · exact (agree ["00"] ["0", "x"] (by decide) (some "off") (some "trace")).2.1
  · exact (shown (some "off") ["00"] 0 "" zero).1 ⟨.anyV4, 49152⟩ rfl

end Runs

end PreviewServer
