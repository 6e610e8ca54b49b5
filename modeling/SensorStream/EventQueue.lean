import SensorStream.Error
import SensorStream.Event
import SensorStream.Log

/-!
# The event queue

A bounded queue between those who publish events and the one who waits for
them.  When it is full, a measurement is lost and counted, while a discovery
event has to wait for room, so that discovery results are never lost.

The flag that says the queue is closed and the pending events are two separate
pieces of state.  Looking at the flag, `put`, `take?`, `markClosed` and `discard`
each touch one of them at one instant; `publish`, `wait` and `close` are whole
calls made of these steps, for a caller that nobody interrupts.
-/

namespace SensorStream

/-- Events on their way to the one who waits. -/
structure EventQueue where
  capacity : Nat
  pending : List Event
  closed : Bool
  /-- Measurements that were lost because the queue was full; no more than were
  published, so a word of 64 bits holds their number until `2 ^ 64` were. -/
  dropped : Nat
  capacity_pos : 0 < capacity
  pending_le : pending.length ≤ capacity

namespace EventQueue

/-- The room in a queue when nothing else is asked for. -/
def defaultCapacity : Nat :=
  1024

theorem room_pos (capacity : Nat) : 0 < max capacity 1 := by
  omega

/-- An empty queue; one that has no room at all would be of no use, so there is
always room for one event. -/
def withCapacity (capacity : Nat) : EventQueue where
  capacity := max capacity 1
  pending := []
  closed := false
  dropped := 0
  capacity_pos := room_pos capacity
  pending_le := by simp

/-! ## Single steps -/

def isFull (queue : EventQueue) : Bool :=
  queue.capacity ≤ queue.pending.length

/-- Put an event at the end, if there is room. -/
def offer? (queue : EventQueue) (event : Event) : Option EventQueue :=
  if room : queue.pending.length < queue.capacity then
    some
      { queue with
        pending := queue.pending ++ [event]
        pending_le := by simp only [List.length_append, List.length_singleton]; omega }
  else none

def countDropped (queue : EventQueue) : EventQueue :=
  { queue with dropped := queue.dropped + 1 }

def take? (queue : EventQueue) : Option (Event × EventQueue) :=
  match pending : queue.pending with
  | [] => none
  | first :: rest =>
      some (first,
        { queue with
          pending := rest
          pending_le := by
            have bound := queue.pending_le
            simp only [pending, List.length_cons] at bound
            omega })

def markClosed (queue : EventQueue) : EventQueue :=
  { queue with closed := true }

/-- Throw the pending events away. -/
def discard (queue : EventQueue) : EventQueue :=
  { queue with pending := [], pending_le := by simp }

/-- What becomes of a published event. -/
inductive Publication where
  | refused
  | stored
  /-- There was no room for a measurement; it is lost. -/
  | lost
  /-- There is no room for a discovery event; its publisher has to wait. -/
  | held
  deriving DecidableEq, Repr

namespace Publication

/-- What the publisher is told; nothing while it has to wait.  A lost
measurement counts as published. -/
def accepted? : Publication → Option Bool
  | refused => some false
  | stored => some true
  | lost => some true
  | held => none

end Publication

/-- Put an event into a queue, whether it is closed or not. -/
def put (queue : EventQueue) (event : Event) : Publication × EventQueue :=
  match queue.offer? event with
  | some grown => (.stored, grown)
  | none => if event.isSystem then (.held, queue) else (.lost, queue.countDropped)

/-! ## Whole calls -/

def publish (queue : EventQueue) (event : Event) : Publication × EventQueue :=
  if queue.closed then (.refused, queue) else queue.put event

/-- Wait for the next event, for as long as nobody publishes one. -/
def wait (queue : EventQueue) : Except ClientError (Option Event) × EventQueue :=
  if queue.closed then (.error .sourceClosed, queue)
  else match queue.take? with
    | some (event, rest) => (.ok (some event), rest)
    | none => (.ok none, queue)

/-- Close the queue; pending events are discarded.  A second closing changes
nothing. -/
def close (queue : EventQueue) : EventQueue :=
  if queue.closed then queue else queue.markClosed.discard

def closeNotes (queue : EventQueue) : List LogLine :=
  if queue.closed || queue.pending.isEmpty then []
  else
    [.debug ("Event queue closed, " ++ toString queue.pending.length
      ++ " pending event(s) dropped")]

/-! ## The pending events after each step -/

@[simp] theorem pending_withCapacity (capacity : Nat) : (withCapacity capacity).pending = [] := rfl

@[simp] theorem pending_markClosed (queue : EventQueue) :
    queue.markClosed.pending = queue.pending := rfl

@[simp] theorem pending_discard (queue : EventQueue) : queue.discard.pending = [] := rfl

/-- An event that is accepted goes to the end. -/
theorem pending_of_offer? {queue grown : EventQueue} {event : Event}
    (offered : queue.offer? event = some grown) :
    grown.pending = queue.pending ++ [event] := by
  simp only [offer?] at offered
  split at offered
  · cases offered
    rfl
  · simp at offered

/-- An event that is taken was the first one. -/
theorem pending_of_take? {queue rest : EventQueue} {event : Event}
    (taken : queue.take? = some (event, rest)) :
    queue.pending = event :: rest.pending := by
  simp only [take?] at taken
  split at taken
  · simp at taken
  · rename_i pending
    simp only [Option.some.injEq, Prod.mk.injEq] at taken
    obtain ⟨rfl, rfl⟩ := taken
    exact pending

end EventQueue

end SensorStream
