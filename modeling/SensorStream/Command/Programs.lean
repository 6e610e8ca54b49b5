import SensorStream.Client.Run
import SensorStream.Hub.Source

/-!
# The two programs

`streamSamples` discovers sensors, connects to the first one and prints its
measurements for a while.  `enumerateSensors` prints what discovery finds.  Both
take all settings from environment variables.  A program here is a function from
its environment to what it writes and how it ends.
-/

namespace SensorStream.Command

/-- How a program ends. -/
inductive Ending where
  | exit (code : UInt32)
  /-- It breaks off in the middle. -/
  | crash (message : String)
  deriving DecidableEq, Repr

/-- What a program writes, and how it ends. -/
structure Execution where
  output : String
  errors : String
  ending : Ending
  deriving DecidableEq, Repr

namespace Execution

def success (lines : List String) : Execution :=
  ⟨String.join (lines.map (· ++ "\n")), "", .exit 0⟩

/-- Write one line of error and end with a code. -/
def failure (line : String) (code : UInt32) : Execution :=
  ⟨"", line ++ "\n", .exit code⟩

end Execution

/-- The last line about a stream. -/
def summary (report : RunReport) : String :=
  "\nStreamed " ++ toString report.observation.totals.accepted ++ " sample(s) from "
    ++ report.sensor.name ++ " (" ++ report.sensor.identifier ++ ") on "
    ++ report.sensor.transport.key ++ "; " ++ toString report.dispatcher.suppressed
    ++ " suppressed by down-sampling"

/-- How the stream program ends without a report. -/
def endOfStream : Mishap → Execution
  | .error .noSensorFound => .success [ClientError.message .noSensorFound]
  | .error error => .failure ("Error: " ++ error.message) error.exitCode
  | .deadlineOverflow => ⟨"", "", .crash (Mishap.message .deadlineOverflow)⟩

/-- Print the measurements of the first sensor. -/
def streamSamples (schedule : Schedule (Hub AnyBackend)) (hardware : Hardware)
    (environment : Environment) : Execution :=
  let config := Config.ofEnvironment environment
  match Hub.ofInterfaces hardware config.interfaces with
  | .error error =>
      .failure ("Sensor client could not be created: " ++ error.message) error.exitCode
  | .ok hub =>
      match (Client.run schedule config hub).1 with
      | .ok report =>
          .success (report.observation.seen.map StreamedSample.render ++ [summary report])
      | .error mishap => endOfStream mishap

/-- One line about a sensor, with its number in the list. -/
def sensorLine (entry : Descriptor × Nat) : String :=
  "  [" ++ toString entry.2 ++ "] " ++ entry.1.name ++ "  ID=" ++ entry.1.identifier
    ++ "  IO=" ++ entry.1.transport.key ++ "  Addr=" ++ entry.1.address

/-- How the listing program ends after discovery. -/
def endOfDiscovery : Except Mishap (List Descriptor) → Execution
  | .ok sensors =>
      .success
        (("Found " ++ toString sensors.length ++ " sensor(s):") :: sensors.zipIdx.map sensorLine)
  | .error (.error .noSensorFound) => .success ["Found 0 sensor(s)"]
  | .error (.error error) => .failure ("Error: " ++ error.message) 1
  | .error .deadlineOverflow => ⟨"", "", .crash (Mishap.message .deadlineOverflow)⟩

/-- Print the sensors that discovery finds. -/
def enumerateSensors (schedule : Schedule (Hub AnyBackend)) (hardware : Hardware)
    (environment : Environment) : Execution :=
  let config := Config.ofEnvironment environment
  match Hub.ofInterfaces hardware config.interfaces with
  | .error error => .failure ("Error: " ++ error.message) 1
  | .ok hub =>
      match (Client.new config hub).start schedule with
      | (.error error, _) => .failure ("Error: " ++ error.message) 1
      | (.ok (), client) => endOfDiscovery (client.awaitDiscovery schedule).1

end SensorStream.Command
