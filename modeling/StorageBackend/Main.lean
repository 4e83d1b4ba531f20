import StorageBackend.CommandLine.Recording

/-!
# The program

Finds the registry's storage in a recorded world: the recording is read from standard input, the
answer is written to standard output, the log and complaints to standard error. All decisions are
made by `CommandLine.run`.
-/

namespace StorageBackend.CommandLine

/-- The variables of the environment that count. -/
def variableNames : List String :=
  "RUST_LOG" :: (commands.flatMap Command.settings).filterMap Setting.envVar

/-- The environment. -/
def readEnvironment : IO Environment := do
  let values ← variableNames.mapM fun name => do return (name, ← IO.getEnv name)
  return values.filterMap fun (name, value) => value.map fun value => (name, value)

/-- The lines that are left in a stream. -/
partial def readLines (stream : IO.FS.Stream) : IO (List String) := do
  let line ← stream.getLine
  if line.isEmpty then return []
  return line :: (← readLines stream)

/-- The world of a command line. Nothing of it is needed if there is nothing to run. -/
def readWorld (arguments : List String) : IO World := do
  let environment ← readEnvironment
  match parse environment arguments with
  | .error _ => return World.ofLines environment []
  | .ok _ => return World.ofLines environment (← readLines (← IO.getStdin))

/-- Shows a result. -/
def present (result : Result) : IO UInt32 := do
  for line in result.log do
    IO.eprintln (String.ofList line.compact)
  IO.print result.output
  if let some complaint := result.complaint then IO.eprintln complaint
  return result.exitCode

/-- Runs the program with the arguments of its command line. -/
def runProgram (arguments : List String) : IO UInt32 := do
  match run (← readWorld arguments) arguments with
  | some result => present result
  | none => return 1

end StorageBackend.CommandLine

/-- Runs the program. -/
def main (arguments : List String) : IO UInt32 := StorageBackend.CommandLine.runProgram arguments
