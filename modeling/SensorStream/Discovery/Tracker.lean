import SensorStream.Event
import SensorStream.Log

/-!
# What discovery has found

A tracker collects the sensors of one discovery cycle.  The set is hidden until
the cycle is complete and frozen from then on; completion is for good.
-/

namespace SensorStream

/-- The state of one discovery cycle. -/
structure Tracker where
  /-- The sensors reported so far, in the order of arrival, duplicates kept. -/
  found : List Descriptor
  complete : Bool
  /-- The latest fraction that was reported, forced into the unit interval. -/
  lastProgress : Float32
  deriving Repr

/-- Force a fraction into the unit interval.  NaN lies on neither side of it and
stays as it is. -/
def clampFraction (fraction : Float32) : Float32 :=
  if fraction < 0 then 0 else if 1 < fraction then 1 else fraction

namespace Tracker

def fresh : Tracker :=
  ⟨[], false, 0⟩

/-- A sensor was reported.  It is too late once the cycle is complete. -/
def recordFound (tracker : Tracker) (sensor : Descriptor) : Tracker :=
  if tracker.complete then tracker
  else { tracker with found := tracker.found ++ [sensor] }

/-- A fraction was reported.  The whole completes the cycle. -/
def recordProgress (tracker : Tracker) (fraction : Float32) : Tracker :=
  if tracker.complete then tracker
  else
    { tracker with
      lastProgress := clampFraction fraction
      complete := decide (1 ≤ fraction) }

def record (tracker : Tracker) : Notice → Tracker
  | .found sensor => tracker.recordFound sensor
  | .progress fraction => tracker.recordProgress fraction

def progress (tracker : Tracker) : Float32 :=
  if tracker.complete then 1 else tracker.lastProgress

/-- The sensors of a complete cycle. -/
def sensors? (tracker : Tracker) : Option (List Descriptor) :=
  if tracker.complete then some tracker.found else none

/-- A complete cycle is not changed by anything that is reported later. -/
theorem record_of_complete {tracker : Tracker} (complete : tracker.complete = true)
    (notice : Notice) : tracker.record notice = tracker := by
  cases notice <;> simp [record, recordFound, recordProgress, complete]

def notes (tracker : Tracker) : Notice → List LogLine
  | .found sensor =>
      if tracker.complete then
        [.debug ("Ignoring late sensor " ++ sensor.identifier ++ " after discovery completed")]
      else
        [.info ("Found sensor " ++ sensor.name ++ " (" ++ sensor.identifier ++ ") on "
          ++ sensor.transport.key)]
  | .progress fraction =>
      if !tracker.complete && decide (1 ≤ fraction) then [.info "Sensor discovery complete"]
      else []

end Tracker

end SensorStream
