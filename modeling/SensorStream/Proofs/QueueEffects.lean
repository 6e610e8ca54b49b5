import SensorStream.EventQueue

/-!
# What becomes of the event queue in one step

What goes in, what comes out, what is counted, and what is left alone, for each of the
single steps.  A queue that is closed stays closed in all of them.
-/

namespace SensorStream

namespace EventQueue

variable {queue later : EventQueue} {event : Event}

/-! ## Putting in and taking out -/

theorem kept_of_offer? (offered : queue.offer? event = some later) :
    later.capacity = queue.capacity ∧ later.closed = queue.closed ∧
      later.dropped = queue.dropped := by
  rw [offer?] at offered
  split at offered
  · cases offered
    exact ⟨rfl, rfl, rfl⟩
  · cases offered

theorem isFull_of_offer?_none (refused : queue.offer? event = none) : queue.isFull = true := by
  rw [offer?] at refused
  split at refused
  · cases refused
  · rename_i crowded
    exact decide_eq_true (Nat.not_lt.1 crowded)

theorem kept_of_take? (taken : queue.take? = some (event, later)) :
    later.capacity = queue.capacity ∧ later.closed = queue.closed ∧
      later.dropped = queue.dropped := by
  rw [take?] at taken
  split at taken
  · cases taken
  · cases taken
    exact ⟨rfl, rfl, rfl⟩

theorem pending_of_take?_none (empty : queue.take? = none) : queue.pending = [] := by
  rw [take?] at empty
  split at empty
  · assumption
  · cases empty

theorem offer?_of_put_stored (put : queue.put event = (.stored, later)) :
    queue.offer? event = some later := by
  rw [EventQueue.put] at put
  split at put
  · rename_i offered
    cases put
    exact offered
  · split at put <;> cases put

/-- Only a measurement that finds the queue full is lost. -/
theorem of_put_lost (put : queue.put event = (.lost, later)) :
    event.isSystem = false ∧ queue.isFull = true ∧ later = queue.countDropped := by
  rw [EventQueue.put] at put
  split at put
  · cases put
  · rename_i refused
    split at put
    · cases put
    · rename_i measured
      cases put
      exact ⟨by simpa using measured, isFull_of_offer?_none refused, rfl⟩

theorem of_put_held (put : queue.put event = (.held, later)) : later = queue := by
  rw [EventQueue.put] at put
  split at put
  · cases put
  · split at put <;> cases put
    rfl

/-- There is always something to be done with a measurement. -/
theorem isSystem_of_put_held (held : queue.put event = (.held, later)) :
    event.isSystem = true := by
  rw [EventQueue.put] at held
  split at held
  · cases held
  · split at held
    · assumption
    · cases held

theorem put_ne_refused : (queue.put event).1 ≠ .refused := by
  rw [EventQueue.put]
  split
  · exact Publication.noConfusion
  · split <;> exact Publication.noConfusion

theorem discard_of_take?_none (empty : queue.take? = none) : queue.discard = queue := by
  have pending := pending_of_take?_none empty
  rcases queue with ⟨capacity, events, closed, dropped, _, _⟩
  cases pending
  rfl

theorem discard_of_take? (taken : queue.take? = some (event, later)) :
    later.discard = queue.discard := by
  rcases kept_of_take? taken with ⟨capacity, closed, dropped⟩
  simp only [discard, capacity, closed, dropped]

/-! ## The effect of a step -/

/-- From the one queue to the other these events went in at the end and those came out at the
front, and a measurement was counted as lost or not. -/
structure Effect (queue later : EventQueue) (puts takes : List Event) (lost : Bool) : Prop where
  capacity_eq : later.capacity = queue.capacity
  closed_mono : queue.closed = true → later.closed = true
  pending_eq : queue.pending ++ puts = takes ++ later.pending
  dropped_eq : later.dropped = queue.dropped + lost.toNat

namespace Effect

theorem refl (queue : EventQueue) : queue.Effect queue [] [] false :=
  ⟨rfl, id, List.append_nil _, rfl⟩

theorem putIn (offered : queue.offer? event = some later) :
    queue.Effect later [event] [] false := by
  rcases kept_of_offer? offered with ⟨capacity, closed, dropped⟩
  refine ⟨capacity, fun before => closed.trans before, ?_, dropped⟩
  exact (pending_of_offer? offered).symm

theorem takeOut (taken : queue.take? = some (event, later)) :
    queue.Effect later [] [event] false := by
  rcases kept_of_take? taken with ⟨capacity, closed, dropped⟩
  refine ⟨capacity, fun before => closed.trans before, ?_, dropped⟩
  rw [List.append_nil]
  exact pending_of_take? taken

theorem lose (queue : EventQueue) : queue.Effect queue.countDropped [] [] true :=
  ⟨rfl, id, List.append_nil _, rfl⟩

theorem markClosed (queue : EventQueue) : queue.Effect queue.markClosed [] [] false :=
  ⟨rfl, fun _ => rfl, List.append_nil _, rfl⟩

end Effect

/-! ## The flag -/

theorem closed_put (queue : EventQueue) (event : Event) :
    (queue.put event).2.closed = queue.closed := by
  rw [put]
  split
  · rename_i grown offered
    exact (kept_of_offer? offered).2.1
  · split <;> rfl

@[simp] theorem closed_publish (queue : EventQueue) (event : Event) :
    (queue.publish event).2.closed = queue.closed := by
  rw [publish]
  split
  · rfl
  · exact queue.closed_put event

theorem closed_of_publish_refused (refused : queue.publish event = (.refused, later)) :
    queue.closed = true := by
  rw [publish] at refused
  split at refused
  · assumption
  · exact absurd (congrArg Prod.fst refused) put_ne_refused

/-- A publisher has to wait where the queue is open and has no room. -/
theorem of_publish_held (held : queue.publish event = (.held, later)) :
    queue.closed = false ∧ queue.isFull = true := by
  rw [publish] at held
  split at held
  · cases held
  · rename_i opened
    rw [put] at held
    split at held
    · cases held
    · rename_i refused
      exact ⟨by simpa using opened, isFull_of_offer?_none refused⟩

/-- A publisher of a measurement never has to wait. -/
theorem isSystem_of_publish_held (held : queue.publish event = (.held, later)) :
    event.isSystem = true := by
  rw [publish] at held
  split at held
  · cases held
  · exact isSystem_of_put_held held

theorem offer?_of_publish_stored (stored : queue.publish event = (.stored, later)) :
    queue.offer? event = some later := by
  rw [publish] at stored
  split at stored
  · cases stored
  · exact offer?_of_put_stored stored

theorem of_publish_lost (lost : queue.publish event = (.lost, later)) :
    event.isSystem = false ∧ queue.isFull = true ∧ later = queue.countDropped := by
  rw [publish] at lost
  split at lost
  · cases lost
  · exact of_put_lost lost

theorem isSystem_of_publish_lost (lost : queue.publish event = (.lost, later)) :
    event.isSystem = false :=
  (of_publish_lost lost).1

@[simp] theorem closed_wait (queue : EventQueue) : queue.wait.2.closed = queue.closed := by
  rw [wait]
  split
  · rfl
  · split
    · rename_i event rest taken
      exact (kept_of_take? taken).2.1
    · rfl

theorem closed_close (queue : EventQueue) : queue.close.closed = true := by
  rw [close]
  split
  · assumption
  · rfl

end EventQueue

end SensorStream
