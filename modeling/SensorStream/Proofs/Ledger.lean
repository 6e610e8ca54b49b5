import SensorStream.Proofs.Journal

/-!
# Sources with a ledger

A ledger stands in front of a source and writes down every request that was made of it,
with its result, and every event that was taken from it.  It answers each request as the
source does, so what holds for a source with a ledger holds for every source.
-/

namespace SensorStream

/-- One entry of a ledger. -/
inductive Dealing where
  /-- A wait took an event. -/
  | took (event : Event)
  | listed (result : Except ClientError Unit)
  | acquired (sensor : Descriptor) (result : Except AcquireError Handle)
  | released (handle : Handle) (result : Except ClientError Unit)
  | shutDown

namespace Dealing

/-- The event that was taken. -/
def event? : Dealing → Option Event
  | took event => some event
  | _ => none

/-- Everything but the taking of events is a request. -/
def isRequest : Dealing → Bool
  | took _ => false
  | _ => true

end Dealing

/-- The events that were taken, among some dealings. -/
def eventsIn (dealings : List Dealing) : List Event :=
  dealings.filterMap Dealing.event?

/-- The requests among some dealings. -/
def requestsIn (dealings : List Dealing) : List Dealing :=
  dealings.filter Dealing.isRequest

@[simp] theorem eventsIn_append (earlier later : List Dealing) :
    eventsIn (earlier ++ later) = eventsIn earlier ++ eventsIn later :=
  List.filterMap_append

@[simp] theorem requestsIn_append (earlier later : List Dealing) :
    requestsIn (earlier ++ later) = requestsIn earlier ++ requestsIn later :=
  List.filter_append earlier later

@[simp] theorem eventsIn_took (events : List Event) : eventsIn (events.map .took) = events := by
  rw [eventsIn, List.filterMap_map]
  exact List.filterMap_some

@[simp] theorem requestsIn_took (events : List Event) : requestsIn (events.map .took) = [] := by
  rw [requestsIn, List.filter_eq_nil_iff]
  simp [Dealing.isRequest]

/-- A source and all that it was dealt with, in order. -/
structure Ledger (Source : Type) where
  source : Source
  dealings : List Dealing

namespace Ledger

variable {Source : Type}

/-- Nothing was dealt yet. -/
def start (source : Source) : Ledger Source :=
  ⟨source, []⟩

/-- Write down a request and its result. -/
def enter {Result : Type} (ledger : Ledger Source) (dealing : Result → Dealing)
    (answer : Result × Source) : Result × Ledger Source :=
  (answer.1, ⟨answer.2, ledger.dealings ++ [dealing answer.1]⟩)

variable [EventSource Source]

instance : EventSource (Ledger Source) where
  list ledger := ledger.enter .listed (EventSource.list ledger.source)
  wait ledger :=
    let (result, source) := EventSource.wait ledger.source
    (result, ⟨source, ledger.dealings ++ result.event?.toList.map .took⟩)
  acquire sensor ledger :=
    ledger.enter (.acquired sensor) (EventSource.acquire sensor ledger.source)
  release handle ledger :=
    ledger.enter (.released handle) (EventSource.release handle ledger.source)
  shutdown ledger := ⟨EventSource.shutdown ledger.source, ledger.dealings ++ [.shutDown]⟩
  advance budget ledger :=
    (EventSource.advance budget ledger.source).map
      (Elapsed.map fun source => ⟨source, ledger.dealings⟩)
  backlog ledger := EventSource.backlog ledger.source

end Ledger

end SensorStream
