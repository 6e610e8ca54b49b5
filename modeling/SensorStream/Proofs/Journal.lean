import SensorStream.Event
import SensorStream.Source.EventSource

/-!
# Sources with a journal

A journal stands in front of a source and writes down every event that a wait
took from it.  It answers each request as the source does, so what holds for a
source with a journal holds for every source, and it can speak of the events
that were taken.
-/

namespace SensorStream

/-- The discovery events among some events. -/
def noticesIn (events : List Event) : List Notice :=
  events.filterMap Event.notice?

/-- The measurements among some events, with the handles of their connections. -/
def measurementsIn (events : List Event) : List (Handle × Sample) :=
  events.filterMap Event.measurement?

@[simp] theorem noticesIn_nil : noticesIn [] = [] := rfl

@[simp] theorem measurementsIn_nil : measurementsIn [] = [] := rfl

@[simp] theorem noticesIn_append (earlier later : List Event) :
    noticesIn (earlier ++ later) = noticesIn earlier ++ noticesIn later :=
  List.filterMap_append

@[simp] theorem measurementsIn_append (earlier later : List Event) :
    measurementsIn (earlier ++ later) = measurementsIn earlier ++ measurementsIn later :=
  List.filterMap_append

@[simp] theorem noticesIn_singleton (event : Event) :
    noticesIn [event] = event.notice?.toList := by
  cases carried : event.notice? <;> simp [noticesIn, carried]

@[simp] theorem measurementsIn_singleton (event : Event) :
    measurementsIn [event] = event.measurement?.toList := by
  cases carried : event.measurement? <;> simp [measurementsIn, carried]

namespace WaitResult

/-- The event that a wait brought, if it brought one. -/
def event? : WaitResult → Option Event
  | .event arrived => some arrived
  | .nothing => none
  | .failed _ => none
  | .panicked => none

end WaitResult

/-- A source and the events that were taken from it, in order. -/
structure Journal (Source : Type) where
  source : Source
  taken : List Event

namespace Journal

variable {Source : Type}

/-- Nothing was taken yet. -/
def start (source : Source) : Journal Source :=
  ⟨source, []⟩

/-- Change the source behind the journal. -/
def update (journal : Journal Source) (change : Source → Source) : Journal Source :=
  { journal with source := change journal.source }

@[simp] theorem taken_start (source : Source) : (start source).taken = [] := rfl

@[simp] theorem taken_update (journal : Journal Source) (change : Source → Source) :
    (journal.update change).taken = journal.taken := rfl

variable [EventSource Source]

instance : EventSource (Journal Source) where
  list journal :=
    let (result, source) := EventSource.list journal.source
    (result, ⟨source, journal.taken⟩)
  wait journal :=
    let (result, source) := EventSource.wait journal.source
    (result, ⟨source, journal.taken ++ result.event?.toList⟩)
  acquire sensor journal :=
    let (result, source) := EventSource.acquire sensor journal.source
    (result, ⟨source, journal.taken⟩)
  release handle journal :=
    let (result, source) := EventSource.release handle journal.source
    (result, ⟨source, journal.taken⟩)
  shutdown journal := journal.update EventSource.shutdown
  advance budget journal :=
    (EventSource.advance budget journal.source).map
      (Elapsed.map fun source => ⟨source, journal.taken⟩)
  backlog journal := EventSource.backlog journal.source

/-- Waiting is the only request that takes an event. -/
@[simp] theorem taken_wait (journal : Journal Source) :
    (EventSource.wait journal).2.taken =
      journal.taken ++ (EventSource.wait journal).1.event?.toList := rfl

@[simp] theorem taken_list (journal : Journal Source) :
    (EventSource.list journal).2.taken = journal.taken := rfl

@[simp] theorem taken_acquire (sensor : Descriptor) (journal : Journal Source) :
    (EventSource.acquire sensor journal).2.taken = journal.taken := rfl

@[simp] theorem taken_shutdown (journal : Journal Source) :
    (EventSource.shutdown journal).taken = journal.taken := rfl

theorem taken_advance {budget : Nat} {journal : Journal Source}
    {elapsed : Elapsed budget (Journal Source)}
    (passes : EventSource.advance budget journal = some elapsed) :
    elapsed.world.taken = journal.taken := by
  rcases Option.map_eq_some_iff.1 passes with ⟨inner, _, rfl⟩
  rfl

end Journal

end SensorStream
