import PreviewServer.Command
import PreviewServer.Proofs.Numerals
import PreviewServer.Proofs.Session

/-!
# The trace of a run

A run of the command chooses a port, asks the system to listen there, and goes one of three ways:
it serves until the interruption, it reports that the port is taken, or it reports another failure.
What it prints, what it reports and its exit code are told by its arguments and by that one answer
of the system.

## Main definitions

* `Selects`: the port that arguments select, and the notice about them
* `CommandRun.Shows`: what a user sees of a run, apart from the log

## Main results

* `selects_iff`: the port that is chosen is the one that the arguments select
* `ServerConfig.bind_of_refused`, `ServerConfig.bind_of_unaddressed`,
  `ServerConfig.bind_of_listening`: binding, when the policy is accepted
* `runCommand_of_listening`, `runCommand_of_taken`, `runCommand_of_bindError`: the three ways
* `runCommand_trace`: the trace of a run, for all arguments and all answers of the system
-/

namespace PreviewServer

/-! ## Arguments -/

/-- What arguments select: a port, and the notice that is printed on the way. Only the first
argument counts. -/
inductive Selects : List String → Port → String → Prop
  /-- Without arguments it is the default port. -/
  | default : Selects [] 8000 ""
  /-- An argument that names a port selects it. -/
  | named {argument : String} {rest : List String} {port : Port} :
    port.IsNamedBy argument → Selects (argument :: rest) port ""
  /-- An argument that names no port selects the default port, with a notice. -/
  | unnamed {argument : String} {rest : List String} :
    (∀ port : Port, ¬ port.IsNamedBy argument) →
      Selects (argument :: rest) 8000 "Invalid port number. Using default port 8000.\n"

theorem invalidPortNotice_eq :
    invalidPortNotice = "Invalid port number. Using default port 8000.\n" := by decide

theorem selects_iff {arguments : List String} {port : Port} {notice : String} :
    Selects arguments port notice ↔ choosePort arguments.head? = ⟨port, notice⟩ := by
  constructor
  · rintro (_ | named | unnamed)
    · rfl
    · exact choosePort_of_isNamedBy named
    · rw [← invalidPortNotice_eq]
      exact choosePort_of_not_isNamedBy unnamed
  · intro chosen
    cases arguments with
    | nil =>
      cases chosen
      exact .default
    | cons argument rest =>
      rw [List.head?_cons] at chosen
      by_cases named : ∃ p : Port, p.IsNamedBy argument
      · obtain ⟨p, named⟩ := named
        rw [choosePort_of_isNamedBy named] at chosen
        cases chosen
        exact .named named
      · rw [not_exists] at named
        rw [choosePort_of_not_isNamedBy named, invalidPortNotice_eq] at chosen
        cases chosen
        exact .unnamed named

/-! ## Binding -/

section Bind

variable {c : ServerConfig} {router : Router} {network : Network} {source : SystemError}

theorem ServerConfig.bind_of_refused
    (built : Router.build (components c.root) c.policy = .ok router)
    (refused : network ⟨c.host, c.port⟩ = .refused source) :
    c.bind network = .error (c.refusal source) := by
  unfold ServerConfig.bind
  rw [built, refused]
  rfl

theorem ServerConfig.bind_of_unaddressed
    (built : Router.build (components c.root) c.policy = .ok router)
    (unaddressed : network ⟨c.host, c.port⟩ = .listening (.error source)) :
    c.bind network = .error (.bind ⟨c.host, c.port⟩ source) := by
  unfold ServerConfig.bind
  rw [built, unaddressed]
  rfl

theorem ServerConfig.bind_of_listening {address : SocketAddress}
    (built : Router.build (components c.root) c.policy = .ok router)
    (listening : network ⟨c.host, c.port⟩ = .listening (.ok address)) :
    c.bind network = .ok ⟨address, c.root, router⟩ := by
  unfold ServerConfig.bind
  rw [built, listening]
  rfl

end Bind

theorem devPolicy_accepted : ∃ fields, devPolicy.validate = .ok fields := ⟨_, rfl⟩

theorem build_devPolicy (root : List String) :
    ∃ router, Router.build root devPolicy = .ok router := by
  obtain ⟨fields, accepted⟩ := devPolicy_accepted
  exact ⟨_, Router.build_eq_ok_iff.mpr ⟨fields, accepted, rfl⟩⟩

theorem SocketAddress.text_anyV4 (port : Port) :
    SocketAddress.text ⟨.anyV4, port⟩ = "0.0.0.0:" ++ decimal port.toNat := by
  have host : Ipv4.text ⟨0, 0, 0, 0⟩ ++ ":" = "0.0.0.0:" := by decide
  rw [← host]
  rfl

/-! ## The three ways of a run -/

/-- What a user sees of a run, apart from the log. -/
structure CommandRun.Shows (run : CommandRun) (exitCode : Nat) (stdout : String)
    (errorLines : List String) : Prop where
  exitCode : run.exitCode = exitCode
  stdout : run.stdout = stdout
  errorLines : run.errorLines = errorLines

section Ways

variable {world : World} {filter : Option String} {arguments : List String} {port : Port}
  {notice : String}

/-- Serving the project goes by what binding gave. -/
theorem serveProject_of_bind {bound : Except Error Server} :
    ((ServerConfig.default world.projectRoot).withPort port).bind world.network = bound →
    serveProject world port =
      match bound with
      | .error e => ⟨"", ⟨[], []⟩, .error e⟩
      | .ok server => ⟨banner server.address.port server.root ++ farewell,
          server.exchange world.tree world.requests, .ok ()⟩ := by
  intro given
  unfold serveProject
  cases bound with
  | error e => rw [given]
  | ok server => rw [given]

theorem serveProject_of_listening {address : SocketAddress}
    (listening : world.network ⟨.anyV4, port⟩ = .listening (.ok address)) :
    ∃ exchange, serveProject world port =
      ⟨banner address.port world.projectRoot ++ farewell, exchange, .ok ()⟩ := by
  -- The policy for previews is accepted, so the answer of the system decides.
  obtain ⟨router, built⟩ := build_devPolicy (components world.projectRoot)
  exact ⟨_, serveProject_of_bind (ServerConfig.bind_of_listening built listening)⟩

theorem serveProject_of_taken {source : SystemError}
    (refused : world.network ⟨.anyV4, port⟩ = .refused source)
    (taken : source.kind = .addressInUse) :
    serveProject world port = ⟨"", ⟨[], []⟩, .error (.addressInUse port)⟩ := by
  obtain ⟨router, built⟩ := build_devPolicy (components world.projectRoot)
  rw [serveProject_of_bind (ServerConfig.bind_of_refused built refused)]
  simp only [ServerConfig.refusal, if_pos taken]
  rfl

theorem serveProject_of_bindError {source : SystemError}
    (failed : (world.network ⟨.anyV4, port⟩ = .refused source ∧ source.kind ≠ .addressInUse) ∨
      world.network ⟨.anyV4, port⟩ = .listening (.error source)) :
    serveProject world port = ⟨"", ⟨[], []⟩, .error (.bind ⟨.anyV4, port⟩ source)⟩ := by
  obtain ⟨router, built⟩ := build_devPolicy (components world.projectRoot)
  rcases failed with ⟨refused, other⟩ | unaddressed
  · rw [serveProject_of_bind (ServerConfig.bind_of_refused built refused)]
    simp only [ServerConfig.refusal, if_neg other]
    rfl
  · exact serveProject_of_bind (ServerConfig.bind_of_unaddressed built unaddressed)

/-- The three kinds of answers of a system, as a run tells them apart. -/
theorem ListenOutcome.listening_or_taken_or_failed (outcome : ListenOutcome) :
    (∃ address, outcome = .listening (.ok address)) ∨
      (∃ source, outcome = .refused source ∧ source.kind = .addressInUse) ∨
      ∃ source, (outcome = .refused source ∧ source.kind ≠ .addressInUse) ∨
        outcome = .listening (.error source) := by
  cases outcome with
  | refused source =>
    by_cases taken : source.kind = .addressInUse
    · exact .inr (.inl ⟨source, rfl, taken⟩)
    · exact .inr (.inr ⟨source, .inl ⟨rfl, taken⟩⟩)
  | listening address =>
    cases address with
    | error source => exact .inr (.inr ⟨source, .inr rfl⟩)
    | ok address => exact .inl ⟨address, rfl⟩

/-- A policy is never at fault when the project cannot be served. -/
theorem serveProject_ne_invalidHeader (world : World) (port : Port) (text : String) :
    (serveProject world port).result ≠ .error (.invalidHeader text) := by
  rcases (world.network ⟨.anyV4, port⟩).listening_or_taken_or_failed with
    ⟨address, listening⟩ | ⟨source, refused, taken⟩ | ⟨source, failed⟩
  · obtain ⟨exchange, served⟩ := serveProject_of_listening listening
    rw [served]
    simp
  · rw [serveProject_of_taken refused taken]
    simp
  · rw [serveProject_of_bindError failed]
    simp

theorem runCommand_of_ok {printed : String} {exchange : Exchange}
    (chosen : choosePort arguments.head? = ⟨port, notice⟩)
    (served : serveProject world port = ⟨printed, exchange, .ok ()⟩) :
    (runCommand world filter arguments).Shows 0 (notice ++ printed) [] := by
  unfold runCommand
  simp only [chosen, served]
  exact ⟨rfl, rfl, rfl⟩

theorem runCommand_of_error {e : Error}
    (chosen : choosePort arguments.head? = ⟨port, notice⟩)
    (served : serveProject world port = ⟨"", ⟨[], []⟩, .error e⟩) :
    (runCommand world filter arguments).Shows 1 notice (errorLines e) := by
  unfold runCommand
  simp only [chosen, served]
  exact ⟨rfl, String.append_empty, rfl⟩

/-- The system listens: the run shows the banner and the farewell. -/
theorem runCommand_of_listening {address : SocketAddress}
    (chosen : choosePort arguments.head? = ⟨port, notice⟩)
    (listening : world.network ⟨.anyV4, port⟩ = .listening (.ok address)) :
    (runCommand world filter arguments).Shows 0
      (notice ++ (banner address.port world.projectRoot ++ farewell)) [] := by
  obtain ⟨exchange, served⟩ := serveProject_of_listening listening
  exact runCommand_of_ok chosen served

/-- The port is taken: the run shows the port and suggests the next one. -/
theorem runCommand_of_taken {source : SystemError}
    (chosen : choosePort arguments.head? = ⟨port, notice⟩)
    (refused : world.network ⟨.anyV4, port⟩ = .refused source)
    (taken : source.kind = .addressInUse) :
    (runCommand world filter arguments).Shows 1 notice (errorLines (.addressInUse port)) :=
  runCommand_of_error chosen (serveProject_of_taken refused taken)

/-- Listening fails for another reason: the run shows it. -/
theorem runCommand_of_bindError {source : SystemError}
    (chosen : choosePort arguments.head? = ⟨port, notice⟩)
    (failed : (world.network ⟨.anyV4, port⟩ = .refused source ∧ source.kind ≠ .addressInUse) ∨
      world.network ⟨.anyV4, port⟩ = .listening (.error source)) :
    (runCommand world filter arguments).Shows 1 notice
      (errorLines (.bind ⟨.anyV4, port⟩ source)) :=
  runCommand_of_error chosen (serveProject_of_bindError failed)

theorem exitCode_runCommand_eq_zero_iff (chosen : choosePort arguments.head? = ⟨port, notice⟩) :
    (runCommand world filter arguments).exitCode = 0 ↔
      ∃ address, world.network ⟨.anyV4, port⟩ = .listening (.ok address) := by
  constructor
  · intro success
    rcases (world.network ⟨.anyV4, port⟩).listening_or_taken_or_failed with
      listening | ⟨source, refused, taken⟩ | ⟨source, failed⟩
    · exact listening
    · rw [(runCommand_of_taken chosen refused taken).exitCode] at success
      cases success
    · rw [(runCommand_of_bindError chosen failed).exitCode] at success
      cases success
  · rintro ⟨address, listening⟩
    exact (runCommand_of_listening chosen listening).exitCode

end Ways

/-! ## Texts -/

theorem banner_eq (port : Port) (root : String) :
    banner port root = "Starting HTTP server on port " ++ decimal port.toNat ++ "\n" ++
      "Serving files from: " ++ root ++ "\n" ++
      "Open your browser to: http://localhost:" ++ decimal port.toNat ++
        "/examples/web-example.html" ++ "\n" ++
      "Press Ctrl+C to stop the server\n" := by
  have page : "/" ++ examplePage = "/examples/web-example.html" := by decide
  unfold banner
  simp only [Port.text, ← page, String.append_assoc]

theorem errorLines_addressInUse (port : Port) :
    errorLines (.addressInUse port) =
      ("Port " ++ decimal port.toNat ++ " is already in use. Try a different port:") ::
        if port.toNat < 65535 then ["cargo run --bin serve -- " ++ decimal (port.toNat + 1)]
        else [] := by
  show _ :: ((suggestedPort port).map retryCommand).toList = _
  split
  · -- The next port as a number is the number after this one.
    rename_i below
    obtain ⟨next, suggested⟩ : ∃ next, suggestedPort port = some next := ⟨_, if_pos below⟩
    rw [suggested, ← suggestedPort_eq_some_iff.mp suggested]
    rfl
  · rename_i last
    rw [suggestedPort, if_neg last]
    rfl

theorem errorLines_bind (port : Port) (source : SystemError) :
    errorLines (.bind ⟨.anyV4, port⟩ source) =
      ["Error starting server: failed to bind 0.0.0.0:" ++ decimal port.toNat ++ ": " ++
        source.message] := by
  have text : "Error starting server: " ++ ("failed to bind " ++ "0.0.0.0:") =
      "Error starting server: failed to bind 0.0.0.0:" := by decide
  show ["Error starting server: " ++ ("failed to bind " ++ SocketAddress.text ⟨.anyV4, port⟩ ++
    ": " ++ source.message)] = _
  simp only [SocketAddress.text_anyV4, ← text, String.append_assoc]

/-! ## The trace -/

/-- **The trace of a run**, for all arguments and all answers of the system. The notice is printed
exactly if there is a first argument and it names no port. If the system listens, the banner and the
farewell follow, and the ports in the banner are the one at which it listens. Otherwise nothing
follows; the run fails, and reports the port that was asked for, with the next one if that port is
taken and is not the last, or the error of the system. A policy is never at fault. -/
theorem runCommand_trace (world : World) (filter : Option String) (arguments : List String) :
    ∃ (port : Port) (notice : String), Selects arguments port notice ∧
      (∀ address, world.network ⟨.anyV4, port⟩ = .listening (.ok address) →
        (runCommand world filter arguments).Shows 0
          (notice ++
            ("Starting HTTP server on port " ++ decimal address.port.toNat ++ "\n" ++
              "Serving files from: " ++ world.projectRoot ++ "\n" ++
              "Open your browser to: http://localhost:" ++ decimal address.port.toNat ++
                "/examples/web-example.html" ++ "\n" ++
              "Press Ctrl+C to stop the server\n" ++
              "\nServer stopped.\n"))
          []) ∧
      (∀ source, world.network ⟨.anyV4, port⟩ = .refused source → source.kind = .addressInUse →
        (runCommand world filter arguments).Shows 1 notice
          (("Port " ++ decimal port.toNat ++ " is already in use. Try a different port:") ::
            if port.toNat < 65535 then ["cargo run --bin serve -- " ++ decimal (port.toNat + 1)]
            else [])) ∧
      (∀ source, (world.network ⟨.anyV4, port⟩ = .refused source ∧ source.kind ≠ .addressInUse) ∨
          world.network ⟨.anyV4, port⟩ = .listening (.error source) →
        (runCommand world filter arguments).Shows 1 notice
          ["Error starting server: failed to bind 0.0.0.0:" ++ decimal port.toNat ++ ": " ++
            source.message]) ∧
      ((runCommand world filter arguments).exitCode = 0 ↔
        ∃ address, world.network ⟨.anyV4, port⟩ = .listening (.ok address)) ∧
      (∃ fields, devPolicy.validate = .ok fields) ∧
      ∀ text, (serveProject world port).result ≠ .error (.invalidHeader text) := by
  obtain ⟨port, notice, chosen⟩ : ∃ port notice, choosePort arguments.head? = ⟨port, notice⟩ :=
    ⟨_, _, rfl⟩
  refine ⟨port, notice, selects_iff.mpr chosen, fun address listening => ?_,
    fun source refused taken => ?_, fun source failed => ?_,
    exitCode_runCommand_eq_zero_iff chosen, devPolicy_accepted,
    serveProject_ne_invalidHeader world port⟩
  · rw [← banner_eq]
    exact runCommand_of_listening chosen listening
  · rw [← errorLines_addressInUse]
    exact runCommand_of_taken chosen refused taken
  · rw [← errorLines_bind]
    exact runCommand_of_bindError chosen failed

/-- A world without files and requests, with one port taken. -/
def busyWorld : World where
  network := Machine.network ⟨fun _ => true, [8080], 49152, true⟩
  projectRoot := "/srv"
  tree := .empty
  requests := []

/-- The banner names the port that the system picked and not the one that was asked for; a taken
port is reported with the next one. -/
theorem runCommand_trace_busyWorld :
    (runCommand busyWorld none ["0"]).Shows 0
      ("Starting HTTP server on port " ++ "49152" ++ "\n" ++
        "Serving files from: " ++ "/srv" ++ "\n" ++
        "Open your browser to: http://localhost:" ++ "49152" ++
          "/examples/web-example.html" ++ "\n" ++
        "Press Ctrl+C to stop the server\n" ++ "\nServer stopped.\n") [] ∧
    (runCommand busyWorld none ["+08080", "9000"]).Shows 1 ""
      ["Port 8080 is already in use. Try a different port:", "cargo run --bin serve -- 8081"] := by
  constructor
  · obtain ⟨port, notice, selected, listening, -⟩ := runCommand_trace busyWorld none ["0"]
    have chosen : choosePort ["0"].head? = ⟨0, ""⟩ := by decide
    obtain ⟨rfl, rfl⟩ := PortChoice.mk.inj (chosen.symm.trans (selects_iff.mp selected))
    have shown := listening ⟨.anyV4, 49152⟩ rfl
    rw [String.empty_append] at shown
    exact shown
  · obtain ⟨port, notice, selected, -, taken, -⟩ :=
      runCommand_trace busyWorld none ["+08080", "9000"]
    have chosen : choosePort ["+08080", "9000"].head? = ⟨8080, ""⟩ := by decide
    obtain ⟨rfl, rfl⟩ := PortChoice.mk.inj (chosen.symm.trans (selects_iff.mp selected))
    exact taken .addressInUse rfl rfl

end PreviewServer
