import SensorStream.Proofs.QueueEffects

/-!
# Calls on the event queue, step by step

Each call on a queue is made of steps that happen at one instant, and between two of them
other calls may act on the same queue.  `QueueCall.Step` lists the steps: a look at the
flag, an event going in or out, a measurement being lost, a wait running out of time.

A call that nobody interrupts does what `publish`, `wait` and `close` say.
-/

namespace SensorStream

/-! ## Calls -/

/-- How far a call to publish has got. -/
inductive Publishing where
  /-- It is going to look whether the queue is closed. -/
  | looking
  /-- It has found the queue open, and its event is to be put in. -/
  | sending
  /-- There was no room for too long, and it is going to look again. -/
  | timedOut
  /-- It is over.  The queue is the one that its last step met. -/
  | answered (publication : EventQueue.Publication) (met : EventQueue)

/-- How far a call to wait has got. -/
inductive Waiting where
  | looking
  | receiving
  | answered (result : Except ClientError (Option Event))

/-- How far a call to close has got. -/
inductive Closing where
  | marking
  /-- It has closed the queue and takes out what is left. -/
  | draining
  | done

inductive QueueCall where
  | publish (event : Event) (stage : Publishing)
  | wait (stage : Waiting)
  | close (stage : Closing)

namespace QueueCall

/-- The call has not done anything. -/
def isFresh : QueueCall → Bool
  | publish _ .looking => true
  | wait .looking => true
  | close .marking => true
  | _ => false

def isWait : QueueCall → Bool
  | wait _ => true
  | _ => false

def isClose : QueueCall → Bool
  | close _ => true
  | _ => false

/-- The call got as far as putting its event in, and has lost it. -/
def isLost : QueueCall → Bool
  | publish _ (.answered .lost _) => true
  | _ => false

/-- One step of a call: from the queue and the call to the queue and the call afterwards,
with the events that it puts in and takes out. -/
inductive Step (queue : EventQueue) :
    QueueCall → EventQueue → QueueCall → List Event → List Event → Prop where
  | refuse {event : Event} (closed : queue.closed = true) :
      Step queue (publish event .looking) queue
        (publish event (.answered .refused queue)) [] []
  | pass {event : Event} (opened : queue.closed = false) :
      Step queue (publish event .looking) queue (publish event .sending) [] []
  | store {event : Event} {grown : EventQueue} (put : queue.put event = (.stored, grown)) :
      Step queue (publish event .sending) grown
        (publish event (.answered .stored queue)) [event] []
  | lose {event : Event} {counted : EventQueue} (put : queue.put event = (.lost, counted)) :
      Step queue (publish event .sending) counted
        (publish event (.answered .lost queue)) [] []
  /-- Only a discovery event has to wait for room. -/
  | timeOut {event : Event} (system : event.isSystem = true) :
      Step queue (publish event .sending) queue (publish event .timedOut) [] []
  | giveUp {event : Event} (closed : queue.closed = true) :
      Step queue (publish event .timedOut) queue
        (publish event (.answered .refused queue)) [] []
  | retry {event : Event} (opened : queue.closed = false) :
      Step queue (publish event .timedOut) queue (publish event .sending) [] []
  | turnAway (closed : queue.closed = true) :
      Step queue (wait .looking) queue (wait (.answered (.error .sourceClosed))) [] []
  | letIn (opened : queue.closed = false) :
      Step queue (wait .looking) queue (wait .receiving) [] []
  | receive {event : Event} {rest : EventQueue} (taken : queue.take? = some (event, rest)) :
      Step queue (wait .receiving) rest (wait (.answered (.ok (some event)))) [] [event]
  | receiveNothing :
      Step queue (wait .receiving) queue (wait (.answered (.ok none))) [] []
  | mark (opened : queue.closed = false) :
      Step queue (close .marking) queue.markClosed (close .draining) [] []
  | markAgain (closed : queue.closed = true) :
      Step queue (close .marking) queue (close .done) [] []
  | drain {event : Event} {rest : EventQueue} (taken : queue.take? = some (event, rest)) :
      Step queue (close .draining) rest (close .draining) [] [event]
  | drainNothing (empty : queue.take? = none) :
      Step queue (close .draining) queue (close .done) [] []

namespace Step

variable {queue later : EventQueue} {call next : QueueCall} {puts takes : List Event}

/-- What a step does to the queue. -/
theorem effect (step : call.Step queue later next puts takes) :
    queue.Effect later puts takes next.isLost := by
  cases step with
  | store put => exact .putIn (EventQueue.offer?_of_put_stored put)
  | lose put =>
      rw [(EventQueue.of_put_lost put).2.2]
      exact .lose queue
  | receive taken => exact .takeOut taken
  | drain taken => exact .takeOut taken
  | mark => exact .markClosed queue
  | _ => exact .refl queue

/-- A call that has lost its measurement is over. -/
theorem isLost_eq_false (step : call.Step queue later next puts takes) : call.isLost = false := by
  cases step <;> rfl

end Step

/-! ## What a call has put in and taken out -/

/-- The events that a call has put into the queue so far, and those that it has taken out,
as its stage says. -/
inductive Settled (queue : EventQueue) : QueueCall → List Event → List Event → Prop where
  | looking {event : Event} : Settled queue (publish event .looking) [] []
  | sending {event : Event} : Settled queue (publish event .sending) [] []
  | timedOut {event : Event} (system : event.isSystem = true) :
      Settled queue (publish event .timedOut) [] []
  | stored {event : Event} {met : EventQueue} :
      Settled queue (publish event (.answered .stored met)) [event] []
  /-- A measurement that was not put in found the queue full. -/
  | lost {event : Event} {met : EventQueue} (measured : event.isSystem = false)
      (full : met.isFull = true) : Settled queue (publish event (.answered .lost met)) [] []
  | refused {event : Event} {met : EventQueue} (closed : queue.closed = true) :
      Settled queue (publish event (.answered .refused met)) [] []
  | begun : Settled queue (wait .looking) [] []
  | receiving : Settled queue (wait .receiving) [] []
  | handed {event : Event} : Settled queue (wait (.answered (.ok (some event)))) [] [event]
  | nothing : Settled queue (wait (.answered (.ok none))) [] []
  | turnedAway (closed : queue.closed = true) :
      Settled queue (wait (.answered (.error .sourceClosed))) [] []
  | marking : Settled queue (close .marking) [] []
  | draining {takes : List Event} (closed : queue.closed = true) :
      Settled queue (close .draining) [] takes
  | done {takes : List Event} (closed : queue.closed = true) :
      Settled queue (close .done) [] takes

namespace Settled

variable {queue later : EventQueue} {call next : QueueCall} {earlier puts taken takes : List Event}

theorem of_isFresh (fresh : call.isFresh = true) : Settled queue call [] [] := by
  cases call with
  | publish event stage =>
      cases stage with
      | looking => exact .looking
      | _ => cases fresh
  | wait stage =>
      cases stage with
      | looking => exact .begun
      | _ => cases fresh
  | close stage =>
      cases stage with
      | marking => exact .marking
      | _ => cases fresh

/-- What a call has done is not undone by another call. -/
theorem mono (settled : Settled queue call puts takes)
    (closed_mono : queue.closed = true → later.closed = true) :
    Settled later call puts takes := by
  cases settled with
  | looking => exact .looking
  | sending => exact .sending
  | timedOut system => exact .timedOut system
  | stored => exact .stored
  | lost measured full => exact .lost measured full
  | refused closed => exact .refused (closed_mono closed)
  | begun => exact .begun
  | receiving => exact .receiving
  | handed => exact .handed
  | nothing => exact .nothing
  | turnedAway closed => exact .turnedAway (closed_mono closed)
  | marking => exact .marking
  | draining closed => exact .draining (closed_mono closed)
  | done closed => exact .done (closed_mono closed)

/-- A step of the call itself adds what it puts in and takes out. -/
theorem step (settled : Settled queue call earlier taken)
    (step : call.Step queue later next puts takes) :
    Settled later next (earlier ++ puts) (taken ++ takes) := by
  cases step with
  | refuse closed => cases settled; exact .refused closed
  | pass => cases settled; exact .sending
  | store => cases settled; exact .stored
  | lose put =>
      rcases EventQueue.of_put_lost put with ⟨measured, full, _⟩
      cases settled
      exact .lost measured full
  | timeOut system => cases settled; exact .timedOut system
  | giveUp closed => cases settled; exact .refused closed
  | retry => cases settled; exact .sending
  | turnAway closed => cases settled; exact .turnedAway closed
  | letIn => cases settled; exact .receiving
  | receive => cases settled; exact .handed
  | receiveNothing => cases settled; exact .nothing
  | mark => cases settled; exact .draining rfl
  | markAgain closed => cases settled; exact .done closed
  | drain removed =>
      cases settled with
      | draining closed =>
          exact .draining ((EventQueue.Effect.takeOut removed).closed_mono closed)
  | drainNothing =>
      cases settled with
      | draining closed => exact .done closed

end Settled

/-! ## A call that nobody interrupts -/

/-- The steps of one call, one after the other. -/
inductive Runs (queue : EventQueue) (call : QueueCall) :
    EventQueue → QueueCall → List Event → List Event → Prop where
  | here : Runs queue call queue call [] []
  | next {middle later : EventQueue} {between last : QueueCall}
      {earlier puts taken takes : List Event} :
      Runs queue call middle between earlier taken → between.Step middle later last puts takes →
      Runs queue call later last (earlier ++ puts) (taken ++ takes)

namespace Runs

variable (queue : EventQueue)

/-- Publishing comes to what `publish` says, unless there is no room for a discovery
event. -/
theorem of_publish (event : Event) :
    (queue.publish event).1 = .held ∧
        Runs queue (publish event .looking) (queue.publish event).2 (publish event .sending)
          [] [] ∨
      ∃ (met : EventQueue) (puts : List Event),
        Runs queue (publish event .looking) (queue.publish event).2
          (publish event (.answered (queue.publish event).1 met)) puts [] := by
  rw [EventQueue.publish]
  cases closed : queue.closed with
  | true => exact .inr ⟨queue, [], .next .here (.refuse closed)⟩
  | false =>
      have sending : Runs queue (publish event .looking) queue (publish event .sending) [] [] :=
        .next .here (.pass closed)
      simp only [Bool.false_eq_true, if_false]
      cases outcome : queue.put event with
      | mk publication later =>
          cases publication with
          | refused => exact absurd (congrArg Prod.fst outcome) EventQueue.put_ne_refused
          | stored => exact .inr ⟨queue, [event], .next sending (.store outcome)⟩
          | lost => exact .inr ⟨queue, [], .next sending (.lose outcome)⟩
          | held =>
              cases EventQueue.of_put_held outcome
              exact .inl ⟨rfl, sending⟩

theorem of_wait :
    ∃ takes : List Event,
      Runs queue (wait .looking) queue.wait.2 (wait (.answered queue.wait.1)) [] takes := by
  rw [EventQueue.wait]
  cases closed : queue.closed with
  | true => exact ⟨[], .next .here (.turnAway closed)⟩
  | false =>
      have receiving : Runs queue (wait .looking) queue (wait .receiving) [] [] :=
        .next .here (.letIn closed)
      simp only [Bool.false_eq_true, if_false]
      cases taken : queue.take? with
      | none => exact ⟨[], .next receiving .receiveNothing⟩
      | some first => exact ⟨[first.1], .next receiving (.receive taken)⟩

variable {queue}

/-- Draining throws away what is left. -/
theorem drained {call : QueueCall} {middle : EventQueue} {puts taken : List Event}
    (draining : Runs queue call middle (close .draining) puts taken) :
    Runs queue call middle.discard (close .done) puts (taken ++ middle.pending) := by
  generalize left : middle.pending = pending
  induction pending generalizing middle taken with
  | nil =>
      cases empty : middle.take? with
      | none =>
          rw [EventQueue.discard_of_take?_none empty]
          have done := draining.next (.drainNothing empty)
          rw [List.append_nil] at done
          exact done
      | some first =>
          rw [EventQueue.pending_of_take? empty] at left
          cases left
  | cons event rest ih =>
      cases removed : middle.take? with
      | none =>
          rw [EventQueue.pending_of_take?_none removed] at left
          cases left
      | some first =>
          rw [EventQueue.pending_of_take? removed] at left
          cases left
          have went := draining.next (.drain removed)
          rw [List.append_nil] at went
          rw [← EventQueue.discard_of_take? removed, List.append_cons]
          exact ih went rfl

theorem of_close :
    ∃ takes : List Event, Runs queue (close .marking) queue.close (close .done) [] takes := by
  rw [EventQueue.close]
  cases closed : queue.closed with
  | true => exact ⟨[], .next .here (.markAgain closed)⟩
  | false =>
      have draining : Runs queue (close .marking) queue.markClosed (close .draining) [] [] :=
        .next .here (.mark closed)
      exact ⟨queue.pending, draining.drained⟩

end Runs

end QueueCall

end SensorStream
