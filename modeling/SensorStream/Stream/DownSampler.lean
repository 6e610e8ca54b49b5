import SensorStream.Tally

/-!
# Down-sampling

Each sensor's measurements are counted from 1, and every measurement whose
count is divisible by a fixed number is left out.  The number zero leaves out
none.  Counts are 64-bit words.
-/

namespace SensorStream

/-- How often a measurement is left out, and how many were counted so far. -/
structure DownSampler where
  every : UInt64
  counts : Tally
  deriving Repr

namespace DownSampler

def fresh (every : UInt64) : DownSampler :=
  ⟨every, .empty⟩

/-- Whether the measurement with this count is left out. -/
def suppresses (every index : UInt64) : Bool :=
  every != 0 && index % every == 0

/-- The number of measurements of a sensor so far. -/
def count (downSampler : DownSampler) (sensor : Handle) : UInt64 :=
  UInt64.ofNat (downSampler.counts.count sensor)

/-- Count one measurement of a sensor.  The result is its running index, unless
it is left out. -/
def accept (downSampler : DownSampler) (sensor : Handle) : Option UInt64 × DownSampler :=
  let counted := { downSampler with counts := downSampler.counts.add sensor }
  let index := counted.count sensor
  (if suppresses downSampler.every index then none else some index, counted)

/-- Accepting a measurement counts it, whether it is left out or not. -/
@[simp] theorem counts_accept (downSampler : DownSampler) (sensor : Handle) :
    (downSampler.accept sensor).2.counts = downSampler.counts.add sensor := rfl

@[simp] theorem every_accept (downSampler : DownSampler) (sensor : Handle) :
    (downSampler.accept sensor).2.every = downSampler.every := rfl

end DownSampler

end SensorStream
