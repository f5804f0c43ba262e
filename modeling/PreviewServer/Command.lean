import PreviewServer.Server

/-!
# The command

A run of the command serves the project's directory until it is interrupted. The outer world enters
as values: what the system answers, the files, and the requests that come in before the
interruption.

## Main definitions

* `World`: what a run depends on beside its arguments
* `serveProject`: serves the project's directory on a port
* `runCommand`: a whole run, with its output and exit code
-/

namespace PreviewServer

/-- What a run depends on beside its arguments. -/
structure World where
  network : Network
  /-- The project's directory, as it is shown and looked up. -/
  projectRoot : String
  tree : FileTree
  /-- The requests that come in before the interruption. -/
  requests : List Request

/-- The page that the banner points to. -/
def examplePage : String := "examples/web-example.html"

/-- What is printed when a server is up. -/
def banner (port : Port) (root : String) : String :=
  "Starting HTTP server on port " ++ port.text ++ "\n" ++
  "Serving files from: " ++ root ++ "\n" ++
  "Open your browser to: http://localhost:" ++ port.text ++ "/" ++ examplePage ++ "\n" ++
  "Press Ctrl+C to stop the server\n"

/-- What is printed after the interruption. -/
def farewell : String := "\nServer stopped.\n"

/-- What serving a directory brings about. -/
structure ServeRun where
  printed : String
  exchange : Exchange
  result : Except Error Unit

/-- Serves the project's directory on a port until the interruption. Nothing is printed unless the
server is up, and the ports shown are those at which it listens. -/
def serveProject (world : World) (port : Port) : ServeRun :=
  match ((ServerConfig.default world.projectRoot).withPort port).bind world.network with
  | .error e => ⟨"", ⟨[], []⟩, .error e⟩
  | .ok server =>
    { printed := banner server.address.port server.root ++ farewell
      exchange := server.exchange world.tree world.requests
      result := .ok () }

/-! ## A whole run -/

/-- The filter that counts when none is given. -/
def defaultFilter : String := "info"

/-- The command that starts a server on another port. -/
def retryCommand (port : Port) : String :=
  "cargo run --bin serve -- " ++ port.text

/-- The lines about an error, for the user. -/
def errorLines : Error → List String
  | .addressInUse port =>
    ("Port " ++ port.text ++ " is already in use. Try a different port:") ::
      ((suggestedPort port).map retryCommand).toList
  | .serve source => ["Error: " ++ (Error.serve source).report]
  | e => ["Error starting server: " ++ e.message]

/-- What a run of the command leaves behind. -/
structure CommandRun where
  exitCode : Nat
  stdout : String
  /-- The lines of the error stream that come from the log. -/
  logLines : List String
  /-- The other lines of the error stream, which follow them. -/
  errorLines : List String
  responses : List (Option Response)
  deriving DecidableEq

/-- The error stream of a run. -/
def CommandRun.stderr (r : CommandRun) : List String :=
  r.logLines ++ r.errorLines

/-- The lines that a filter text makes of a log, with the warnings about the text in front. -/
def shownLog (filter : Option String) (log : List LogRecord) : List String :=
  let text := filter.getD defaultFilter
  filterWarnings text ++ (log.filter (LogFilter.ofText text).admits).map (·.line)

/-- A whole run of the command, from its arguments and the filter text of its environment. -/
def runCommand (world : World) (filter : Option String) (arguments : List String) : CommandRun :=
  let choice := choosePort arguments.head?
  let run := serveProject world choice.port
  { exitCode := match run.result with
      | .ok () => 0
      | .error _ => 1
    stdout := choice.printed ++ run.printed
    logLines := shownLog filter run.exchange.log
    errorLines := match run.result with
      | .ok () => []
      | .error e => errorLines e
    responses := run.exchange.responses }

end PreviewServer
