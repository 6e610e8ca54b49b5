import SensorStream.EventQueue
import SensorStream.Numeric.Angle
import SensorStream.Numeric.Dyadic
import SensorStream.Span

/-!
# Generated measurements

A sensor that needs no hardware: it lies level and turns about its vertical axis
at a constant rate.  A generator publishes one measurement after the other, at
regular intervals, until it has reached its limit, the queue is closed or it is
stopped.
-/

namespace SensorStream

namespace Sample

/-- The measurement of a level sensor in a steady turn: the frame's number, the
seconds between two frames and the degrees per second. -/
def turning (frame : UInt64) (interval yawRate : Float) : Sample :=
  let seconds := frame.toFloat * interval
  let yaw := Numeric.wrapDegrees (yawRate * seconds)
  let half := Numeric.radians yaw / 2
  { acceleration := ⟨0, 0, -1⟩
    angularVelocity := ⟨0, 0, yawRate⟩
    euler := ⟨0, 0, yaw⟩
    orientation := ⟨half.cos, 0, 0, half.sin⟩
    seconds := seconds
    frame := frame.toUInt32 }

end Sample

structure Generator where
  handle : Handle
  period : Span
  /-- The number of measurements after which it ends, if it does. -/
  limit? : Option Nat
  yawRate : Float
  /-- The number of measurements published so far. -/
  frame : UInt64
  /-- The time until the next one, in nanoseconds. -/
  due : Nat
  running : Bool
  deriving Repr

namespace Generator

/-- A pause is never shorter than 50 microseconds, whatever length was asked
for. -/
def shortestPause : Nat :=
  50000

/-- The time between two measurements at a rate in hertz. -/
def periodOf (rate : Float) : Span :=
  match Numeric.Dyadic.ofFloat? (1 / rate) with
  | some value => ⟨Numeric.roundDyadic (value.mantissa * 1000000000) value.exponent⟩
  | none => .zero

/-- A generator whose first measurement is due at once. -/
def start (handle : Handle) (rate : Float) (limit? : Option Nat) (yawRate : Float) : Generator where
  handle := handle
  period := periodOf rate
  limit? := limit?
  yawRate := yawRate
  frame := 0
  due := 0
  running := true

def exhausted (generator : Generator) : Bool :=
  match generator.limit? with
  | some limit => limit ≤ generator.frame.toNat
  | none => false

def nextEvent (generator : Generator) : Event :=
  .measured generator.handle
    (.turning generator.frame generator.period.toSeconds generator.yawRate)

/-- End without publishing again. -/
def stop (generator : Generator) : Generator :=
  { generator with running := false }

/-- Publish the next measurement, or end: at the limit, or when the queue is found
closed. -/
def publishNext (generator : Generator) (queue : EventQueue) : Generator × EventQueue :=
  if !generator.running then (generator, queue)
  else if generator.exhausted then (generator.stop, queue)
  else
    let (publication, queue) := queue.publish generator.nextEvent
    if publication = .refused then (generator.stop, queue)
    else
      ({ generator with
          frame := generator.frame + 1
          due := max generator.period.nanoseconds shortestPause }, queue)

/-- Let time pass.  A measurement that is due within it is published. -/
def elapse (span : Nat) (generator : Generator) (queue : EventQueue) : Generator × EventQueue :=
  if generator.due ≤ span then generator.publishNext queue
  else ({ generator with due := generator.due - span }, queue)

/-- The time until the next publication, for a generator that is running. -/
def nextDue? (generator : Generator) : Option Nat :=
  if generator.running then some generator.due else none

end Generator

end SensorStream
