import SensorStream.Error
import SensorStream.Event
import SensorStream.Stream.Elapsed

/-!
# Event sources

Where discovery and measurement events come from.  A source is asked to start a
discovery cycle, to wait for its next event, to open and close connections and
to shut down.  It may do anything at all in answer to that, so a statement about
every instance of this class is a statement about every behaviour of a source.

A source may also have something going on by itself while time passes, such as a
sensor that measures.  `advance` lets time pass until the next thing of that kind
happens, and `backlog` bounds how many waits are answered by an event or an error
without it.
-/

namespace SensorStream

/-- What one wait for the next event brings. -/
inductive WaitResult where
  | event (event : Event)
  /-- The wait ended without an event. -/
  | nothing
  | failed (error : ClientError)
  /-- The thread that waited did not survive it. -/
  | panicked
  deriving Repr

/-- A state of a source answers each request and becomes another state. -/
class EventSource (Source : Type) where
  /-- Start a discovery cycle, whose results arrive as events. -/
  list : Source → Except ClientError Unit × Source
  wait : Source → WaitResult × Source
  /-- Open a connection to a sensor. -/
  acquire : Descriptor → Source → Except AcquireError Handle × Source
  release : Handle → Source → Except ClientError Unit × Source
  /-- Give up everything. -/
  shutdown : Source → Source
  /-- Let time pass until something happens by itself, if it does within the
  budget. -/
  advance : (budget : Nat) → Source → Option (Elapsed budget Source)
  /-- How many waits may be answered by something else than nothing. -/
  backlog : Source → Nat

end SensorStream
