import SensorStream.Command.Programs

/-!
# Command line

Runs one of the two programs on this machine.  The first argument chooses the
program: `enumerate` lists sensors, anything else streams samples.  No hardware
is attached to this build, so only the simulated sensor can be found.
-/

open SensorStream

def readEnvironment : IO Environment := do
  let mut assignments := []
  for name in Config.variableNames do
    if let some value ← IO.getEnv name then
      assignments := (name, value.toUTF8) :: assignments
  return Environment.ofList assignments

def main (arguments : List String) : IO UInt32 := do
  let environment ← readEnvironment
  let program :=
    if arguments.head? = some "enumerate" then Command.enumerateSensors
    else Command.streamSamples
  let execution := program .patient .none environment
  IO.print execution.output
  IO.eprint execution.errors
  match execution.ending with
  | .exit code => return code
  | .crash message =>
      IO.eprintln message
      return 101
