import SensorStream.Span
import SensorStream.Text.Blank
import SensorStream.Text.Numeral

/-!
# Environment variables

A program is tuned by variables, each a name with a value in bytes.  A value
counts only if it is UTF-8 text, and the white space around it does not count.
-/

namespace SensorStream

/-- The variables of a process. -/
structure Environment where
  value? : String → Option ByteArray

namespace Environment

/-- An environment with the listed variables; the first of two equal names
wins. -/
def ofList (assignments : List (String × ByteArray)) : Environment :=
  ⟨fun name => assignments.lookup name⟩

/-- The value of a variable without the white space around it, if it is text. -/
def text? (environment : Environment) (name : String) : Option (List Char) :=
  ((environment.value? name).bind String.fromUTF8?).map fun value => Text.trim value.toList

/-- The numeral that a variable holds. -/
def count? (environment : Environment) (name : String) : Option UInt64 :=
  (environment.text? name).bind Text.count?

/-- The number of milliseconds that a variable holds, or else the given span. -/
def milliseconds (environment : Environment) (name : String) (otherwise : Span) : Span :=
  match environment.count? name with
  | some count => .ofMilliseconds count.toNat
  | none => otherwise

/-- The number of seconds that a variable holds, or else the given span. -/
def seconds (environment : Environment) (name : String) (otherwise : Span) : Span :=
  match environment.count? name with
  | some count => .ofSeconds count.toNat
  | none => otherwise

end Environment

end SensorStream
