/-!
# Spans of time

Every setting that measures time is a span in whole nanoseconds.  A deadline is
the reading of a clock plus a span, and it exists only while its seconds fit
into a signed 64-bit number.
-/

namespace SensorStream

structure Span where
  nanoseconds : Nat
  deriving DecidableEq, Repr

namespace Span

def zero : Span :=
  ⟨0⟩

def ofSeconds (seconds : Nat) : Span :=
  ⟨seconds * 1000000000⟩

def ofMilliseconds (milliseconds : Nat) : Span :=
  ⟨milliseconds * 1000000⟩

/-- The longest span: one nanosecond short of `2 ^ 64` seconds. -/
def longest : Span :=
  ⟨Nat.pow 2 64 * 1000000000 - 1⟩

def isZero (span : Span) : Bool :=
  span.nanoseconds == 0

def seconds (span : Span) : Nat :=
  span.nanoseconds / 1000000000

/-- What is left of a span beyond its whole seconds, in nanoseconds. -/
def subsecond (span : Span) : Nat :=
  span.nanoseconds % 1000000000

/-- A span in seconds, as far as floating-point numbers go. -/
def toSeconds (span : Span) : Float :=
  (UInt64.ofNat span.seconds).toFloat + (UInt64.ofNat span.subsecond).toFloat / 1000000000

/-- Replace a span of length zero. -/
def orIfZero (span replacement : Span) : Span :=
  if span.isZero then replacement else span

end Span

/-- Whether a clock that reads `now` nanoseconds can name the end of a span. -/
def deadlineFits (now : Nat) (span : Span) : Bool :=
  (now + span.nanoseconds) / 1000000000 < Nat.pow 2 63

end SensorStream
