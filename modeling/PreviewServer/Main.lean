import PreviewServer.Command

/-!
# The executable

Runs the command on a machine of its own, which has every address, no port taken and an empty
project directory. The requests are the lines of the standard input that ask for something, such as
`GET /index.html`; the end of the input is the interruption.
-/

namespace PreviewServer

/-- The machine on which the executable runs the command. -/
def ownMachine : Machine where
  hasAddress := fun _ => true
  occupied := []
  free := 49152
  hasDescriptors := true

/-- The lines of a stream up to its end. -/
partial def readLines (input : IO.FS.Stream) : IO (List String) := do
  let line ← input.getLine
  if line.isEmpty then return [] else return line :: (← readLines input)

end PreviewServer

open PreviewServer in
/-- Runs the command with the arguments of the process. -/
def main (arguments : List String) : IO UInt32 := do
  let lines ← readLines (← IO.getStdin)
  let world : World :=
    { network := ownMachine.network
      projectRoot := "."
      tree := .empty
      requests := lines.filterMap Request.ofLine? }
  let run := runCommand world (← IO.getEnv "RUST_LOG") arguments
  IO.print run.stdout
  run.stderr.forM fun line => IO.eprintln line
  return run.exitCode.toUInt32
