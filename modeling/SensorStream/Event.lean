import SensorStream.Sample

/-!
# Events

An event source reports what it finds and measures as events.  Discovery events
belong to the system as a whole and carry no handle; measurements belong to one
open connection and carry its handle.  Any other combination is possible to
write down but means nothing, and is passed over.
-/

namespace SensorStream

/-- What an event says. -/
inductive Payload where
  | found (sensor : Descriptor)
  | progress (fraction : Float32)
  | measured (sample : Sample)
  deriving Repr

/-- An event, with the handle of the connection it belongs to, if any. -/
structure Event where
  sensor : Option Handle
  payload : Payload
  deriving Repr

/-- A discovery event of the system. -/
inductive Notice where
  | found (sensor : Descriptor)
  | progress (fraction : Float32)
  deriving Repr

namespace Event

def found (sensor : Descriptor) : Event :=
  ⟨none, .found sensor⟩

/-- Listing got this far; one ends the discovery cycle. -/
def progress (fraction : Float32) : Event :=
  ⟨none, .progress fraction⟩

def measured (sensor : Handle) (sample : Sample) : Event :=
  ⟨some sensor, .measured sample⟩

/-- Whether an event belongs to the system as a whole. -/
def isSystem (event : Event) : Bool :=
  event.sensor.isNone

/-- The discovery event that an event carries, if it is of the system. -/
def notice? (event : Event) : Option Notice :=
  match event.sensor, event.payload with
  | none, .found sensor => some (.found sensor)
  | none, .progress fraction => some (.progress fraction)
  | _, _ => none

/-- The measurement that an event carries, if it belongs to a connection. -/
def measurement? (event : Event) : Option (Handle × Sample) :=
  match event.sensor, event.payload with
  | some handle, .measured sample => some (handle, sample)
  | _, _ => none

@[simp] theorem notice?_found (sensor : Descriptor) :
    (found sensor).notice? = some (.found sensor) := rfl

@[simp] theorem notice?_progress (fraction : Float32) :
    (progress fraction).notice? = some (.progress fraction) := rfl

@[simp] theorem measurement?_measured (handle : Handle) (sample : Sample) :
    (measured handle sample).measurement? = some (handle, sample) := rfl

/-- An event that is a discovery event is not a measurement. -/
theorem measurement?_of_notice? {event : Event} {notice : Notice}
    (isNotice : event.notice? = some notice) : event.measurement? = none := by
  rcases event with ⟨_ | handle, payload⟩ <;> cases payload <;>
    simp_all [notice?, measurement?]

end Event

end SensorStream
