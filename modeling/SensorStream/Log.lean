/-!
# Log lines

What a step reports to the person who runs the program.  Lines are data here:
the functions that make them take the state before a step or the outcome of a
step, and nothing is written anywhere.
-/

namespace SensorStream

inductive LogLevel where
  | error
  | warn
  | info
  | debug
  deriving DecidableEq, Repr

namespace LogLevel

def name : LogLevel → String
  | error => "ERROR"
  | warn => "WARN"
  | info => "INFO"
  | debug => "DEBUG"

end LogLevel

structure LogLine where
  level : LogLevel
  text : String
  deriving DecidableEq, Repr

namespace LogLine

def error (text : String) : LogLine :=
  ⟨.error, text⟩

def warn (text : String) : LogLine :=
  ⟨.warn, text⟩

def info (text : String) : LogLine :=
  ⟨.info, text⟩

def debug (text : String) : LogLine :=
  ⟨.debug, text⟩

/-- A line with its level in front. -/
def render (line : LogLine) : String :=
  line.level.name ++ " " ++ line.text

end LogLine

end SensorStream
