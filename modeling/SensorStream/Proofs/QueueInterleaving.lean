import SensorStream.Proofs.QueueCalls

/-!
# Calls on one queue, in any order

Any number of publishers, waiters and closers act on one queue, and their steps come in any
order.  Each event that went in either came out again or is pending, in the order in which
the events went in; what a call is told is what it has done.
-/

namespace SensorStream

/-- A queue, the calls on it, and the events that went in and came out, each with the number
of the call that has put it in or taken it out. -/
structure Traffic where
  queue : EventQueue
  calls : List QueueCall
  entered : List (Nat × Event)
  left : List (Nat × Event)

namespace Traffic

/-- The events of a call, among events with the numbers of their calls. -/
def eventsOf (caller : Nat) (passages : List (Nat × Event)) : List Event :=
  (passages.filter fun passage => passage.1 == caller).map Prod.snd

/-- Nobody has called yet. -/
def start (capacity : Nat) : Traffic :=
  ⟨.withCapacity capacity, [], [], []⟩

/-- Another call begins. -/
def begin (traffic : Traffic) (call : QueueCall) : Traffic :=
  { traffic with calls := traffic.calls ++ [call] }

/-- A call has taken a step. -/
def act (traffic : Traffic) (caller : Nat) (queue : EventQueue) (call : QueueCall)
    (puts takes : List Event) : Traffic where
  queue := queue
  calls := traffic.calls.set caller call
  entered := traffic.entered ++ puts.map fun event => (caller, event)
  left := traffic.left ++ takes.map fun event => (caller, event)

/-- What any calls come to, when their steps come in any order. -/
inductive Reachable (capacity : Nat) : Traffic → Prop where
  | start : Reachable capacity (start capacity)
  | begin {traffic : Traffic} (earlier : Reachable capacity traffic) {call : QueueCall}
      (fresh : call.isFresh = true) : Reachable capacity (traffic.begin call)
  | act {traffic : Traffic} (earlier : Reachable capacity traffic) {caller : Nat}
      {call next : QueueCall} {queue : EventQueue} {puts takes : List Event}
      (calling : traffic.calls[caller]? = some call)
      (step : call.Step traffic.queue queue next puts takes) :
      Reachable capacity (traffic.act caller queue next puts takes)

/-- The events that came out by a call of this kind. -/
def leftBy (traffic : Traffic) (kind : QueueCall → Bool) : List Event :=
  (traffic.left.filter fun passage => traffic.calls[passage.1]?.any kind).map Prod.snd

/-- What was handed to waiters. -/
def delivered (traffic : Traffic) : List Event :=
  traffic.leftBy QueueCall.isWait

/-- What was thrown away by closers. -/
def discarded (traffic : Traffic) : List Event :=
  traffic.leftBy QueueCall.isClose

@[simp] theorem eventsOf_append (caller : Nat) (earlier later : List (Nat × Event)) :
    eventsOf caller (earlier ++ later) = eventsOf caller earlier ++ eventsOf caller later := by
  simp [eventsOf]

theorem eventsOf_self (caller : Nat) (events : List Event) :
    eventsOf caller (events.map fun event => (caller, event)) = events := by
  induction events with
  | nil => rfl
  | cons event later ih =>
      rw [List.map_cons, ← List.singleton_append, eventsOf_append, ih]
      simp [eventsOf]

theorem eventsOf_other {caller other : Nat} (different : other ≠ caller) (events : List Event) :
    eventsOf caller (events.map fun event => (other, event)) = [] := by
  induction events with
  | nil => rfl
  | cons event later => simp [eventsOf, different]

theorem mem_eventsOf {passages : List (Nat × Event)} {passage : Nat × Event}
    (member : passage ∈ passages) : passage.2 ∈ eventsOf passage.1 passages :=
  List.mem_map.2 ⟨passage, List.mem_filter.2 ⟨member, beq_self_eq_true _⟩, rfl⟩

/-! ## The books of the traffic -/

/-- What holds at every moment. -/
structure Booked (capacity : Nat) (traffic : Traffic) : Prop where
  capacity_eq : traffic.queue.capacity = max capacity 1
  ordered : traffic.entered.map Prod.snd = traffic.left.map Prod.snd ++ traffic.queue.pending
  dropped_eq : traffic.queue.dropped = traffic.calls.countP QueueCall.isLost
  settled : ∀ (caller : Nat) (call : QueueCall), traffic.calls[caller]? = some call →
    call.Settled traffic.queue (eventsOf caller traffic.entered) (eventsOf caller traffic.left)
  /-- Nobody but the calls has put anything in or taken anything out. -/
  unattended : ∀ caller : Nat, traffic.calls.length ≤ caller →
    eventsOf caller traffic.entered = [] ∧ eventsOf caller traffic.left = []

namespace Booked

variable {capacity : Nat} {traffic : Traffic}

theorem start (capacity : Nat) : (start capacity).Booked capacity where
  capacity_eq := rfl
  ordered := rfl
  dropped_eq := rfl
  settled := by
    intro caller call calling
    cases calling
  unattended := fun _ _ => ⟨rfl, rfl⟩

/-- A call that begins has neither put anything in nor taken anything out. -/
theorem begin (booked : traffic.Booked capacity) {call : QueueCall} (fresh : call.isFresh = true) :
    (traffic.begin call).Booked capacity where
  capacity_eq := booked.capacity_eq
  ordered := booked.ordered
  dropped_eq := by
    have unlost : call.isLost = false := by
      cases call with
      | publish event stage =>
          cases stage with
          | looking => rfl
          | _ => cases fresh
      | _ => rfl
    rw [Traffic.begin, List.countP_append, List.countP_singleton, unlost]
    exact booked.dropped_eq
  settled := by
    intro caller other calling
    rw [Traffic.begin, List.getElem?_append] at calling
    split at calling
    · exact booked.settled caller other calling
    · rename_i beyond
      rcases booked.unattended caller (Nat.not_lt.1 beyond) with ⟨entered, left⟩
      have same : other = call := by
        rw [List.getElem?_singleton] at calling
        split at calling <;> cases calling
        rfl
      rw [Traffic.begin, entered, left, same]
      exact .of_isFresh fresh
  unattended := by
    intro caller beyond
    rw [Traffic.begin, List.length_append] at beyond
    exact booked.unattended caller (Nat.le_trans (Nat.le_add_right _ _) beyond)

/-- A step keeps the books: the events go through the queue in their order, and what the
call has put in and taken out is what its stage says. -/
theorem act (booked : traffic.Booked capacity) {caller : Nat} {call next : QueueCall}
    {queue : EventQueue} {puts takes : List Event}
    (calling : traffic.calls[caller]? = some call)
    (step : call.Step traffic.queue queue next puts takes) :
    (traffic.act caller queue next puts takes).Booked capacity where
  capacity_eq := step.effect.capacity_eq.trans booked.capacity_eq
  ordered := by
    have moved := step.effect.pending_eq
    simp only [Traffic.act, List.map_append, List.map_map, Function.comp_def, List.map_id']
    rw [booked.ordered, List.append_assoc, moved, List.append_assoc]
  dropped_eq := by
    have counted := step.effect.dropped_eq
    rcases List.getElem?_eq_some_iff.1 calling with ⟨within, found⟩
    rw [Traffic.act, List.countP_set within, found, step.isLost_eq_false, ← booked.dropped_eq,
      counted]
    cases next.isLost <;> rfl
  settled := by
    intro other current found
    rw [Traffic.act, List.getElem?_set] at found
    simp only [Traffic.act, eventsOf_append]
    split at found
    · rename_i same
      cases same
      rcases List.getElem?_eq_some_iff.1 calling with ⟨within, _⟩
      rw [if_pos within] at found
      cases found
      rw [eventsOf_self, eventsOf_self]
      exact (booked.settled caller call calling).step step
    · rename_i different
      rw [eventsOf_other different, eventsOf_other different, List.append_nil, List.append_nil]
      exact (booked.settled other current found).mono step.effect.closed_mono
  unattended := by
    intro other beyond
    rw [Traffic.act, List.length_set] at beyond
    have different : caller ≠ other := by
      rintro rfl
      rw [List.getElem?_eq_none beyond] at calling
      cases calling
    simp only [Traffic.act, eventsOf_append]
    rw [eventsOf_other different, eventsOf_other different, List.append_nil, List.append_nil]
    exact booked.unattended other beyond

end Booked

theorem Reachable.booked {capacity : Nat} {traffic : Traffic}
    (reachable : Reachable capacity traffic) : traffic.Booked capacity := by
  induction reachable with
  | start => exact .start capacity
  | begin _ fresh ih => exact ih.begin fresh
  | act _ calling step ih => exact ih.act calling step

/-! ## What becomes of the events, and what the calls are told -/

/-- What the callers and the one who reads the count can rely on. -/
structure Accounted (capacity : Nat) (traffic : Traffic) : Prop where
  bounded : traffic.queue.pending.length ≤ max 1 capacity
  /-- The events come out in the order in which they went in. -/
  ordered : traffic.entered.map Prod.snd = traffic.left.map Prod.snd ++ traffic.queue.pending
  /-- Each event that went in was handed to a waiter, thrown away by a closer or is pending. -/
  parted : (traffic.delivered ++ traffic.discarded ++ traffic.queue.pending).Perm
    (traffic.entered.map Prod.snd)
  /-- A waiter is told of the event that it has taken out, and has taken out no other. -/
  handed : ∀ {caller : Nat} {stage : Waiting},
    traffic.calls[caller]? = some (.wait stage) →
      eventsOf caller traffic.left =
        match stage with
        | .answered (.ok (some event)) => [event]
        | _ => []
  turnedAway : ∀ {caller : Nat} {error : ClientError},
    traffic.calls[caller]? = some (.wait (.answered (.error error))) →
      error = .sourceClosed ∧ traffic.queue.closed = true
  /-- The count is that of the publishers that got as far as putting their event in and did
  not. -/
  counted : traffic.queue.dropped = traffic.calls.countP QueueCall.isLost
  /-- It does not exceed the number of calls. -/
  few : traffic.queue.dropped ≤ traffic.calls.length
  lost : ∀ {caller : Nat} {event : Event} {met : EventQueue},
    traffic.calls[caller]? = some (.publish event (.answered .lost met)) →
      event.isSystem = false ∧ met.isFull = true ∧ eventsOf caller traffic.entered = []
  /-- Who publishes a discovery event is told the truth. -/
  accepted : ∀ {caller : Nat} {event : Event} {publication : EventQueue.Publication}
    {met : EventQueue},
    traffic.calls[caller]? = some (.publish event (.answered publication met)) →
      event.isSystem = true → publication.accepted? = some true →
        eventsOf caller traffic.entered = [event]
  refused : ∀ {caller : Nat} {event : Event} {publication : EventQueue.Publication}
    {met : EventQueue},
    traffic.calls[caller]? = some (.publish event (.answered publication met)) →
      publication.accepted? ≠ some true →
        publication.accepted? = some false ∧ eventsOf caller traffic.entered = [] ∧
          traffic.queue.closed = true

namespace Booked

variable {capacity : Nat} {traffic : Traffic}

theorem books_of_call (booked : traffic.Booked capacity) {caller : Nat} {call : QueueCall}
    (calling : traffic.calls[caller]? = some call) :
    ∃ puts takes : List Event, eventsOf caller traffic.entered = puts ∧
      eventsOf caller traffic.left = takes ∧ call.Settled traffic.queue puts takes :=
  ⟨_, _, rfl, rfl, booked.settled caller call calling⟩

/-- What came out was taken by a waiter or by a closer. -/
theorem isClose_of_left (booked : traffic.Booked capacity) {passage : Nat × Event}
    (member : passage ∈ traffic.left) :
    traffic.calls[passage.1]?.any QueueCall.isClose =
      !traffic.calls[passage.1]?.any QueueCall.isWait := by
  have taken := mem_eventsOf member
  cases calling : traffic.calls[passage.1]? with
  | none =>
      rw [(booked.unattended passage.1 (List.getElem?_eq_none_iff.1 calling)).2] at taken
      cases taken
  | some call =>
      rcases booked.books_of_call calling with ⟨puts, takes, _, left, settled⟩
      rw [left] at taken
      cases settled with
      | handed => rfl
      | draining => rfl
      | done => rfl
      | _ => cases taken

theorem parted (booked : traffic.Booked capacity) :
    (traffic.delivered ++ traffic.discarded ++ traffic.queue.pending).Perm
      (traffic.entered.map Prod.snd) := by
  have kinds : traffic.discarded = (traffic.left.filter fun passage =>
      !traffic.calls[passage.1]?.any QueueCall.isWait).map Prod.snd := by
    rw [discarded, leftBy]
    congr 1
    apply List.filter_congr
    intro passage member
    exact booked.isClose_of_left member
  rw [booked.ordered, delivered, leftBy, kinds, ← List.map_append]
  apply List.Perm.append_right
  exact (List.filter_append_perm _ _).map _

end Booked

/-- However the steps of the calls are interleaved, the queue is never longer than its
capacity, no event is lost, doubled or overtaken on its way, and the count of what was not
put in and the answers of the calls are right. -/
theorem accounted_of_reachable {capacity : Nat} {traffic : Traffic}
    (reachable : Reachable capacity traffic) : traffic.Accounted capacity where
  bounded := by
    rw [Nat.max_comm, ← reachable.booked.capacity_eq]
    exact traffic.queue.pending_le
  ordered := reachable.booked.ordered
  parted := reachable.booked.parted
  handed := by
    intro caller stage calling
    rcases reachable.booked.books_of_call calling with ⟨puts, takes, _, left, settled⟩
    rw [left]
    cases settled <;> rfl
  turnedAway := by
    intro caller error calling
    rcases reachable.booked.books_of_call calling with ⟨puts, takes, _, _, settled⟩
    cases settled with
    | turnedAway closed => exact ⟨rfl, closed⟩
  counted := reachable.booked.dropped_eq
  few := by
    rw [reachable.booked.dropped_eq]
    exact List.countP_le_length
  lost := by
    intro caller event met calling
    rcases reachable.booked.books_of_call calling with ⟨puts, takes, entered, _, settled⟩
    cases settled with
    | lost measured full => exact ⟨measured, full, entered⟩
  accepted := by
    intro caller event publication met calling system told
    rcases reachable.booked.books_of_call calling with ⟨puts, takes, entered, _, settled⟩
    cases settled with
    | stored => exact entered
    | lost measured => cases system.symm.trans measured
    | refused => cases told
  refused := by
    intro caller event publication met calling told
    rcases reachable.booked.books_of_call calling with ⟨puts, takes, entered, _, settled⟩
    cases settled with
    | stored => exact absurd rfl told
    | lost => exact absurd rfl told
    | refused closed => exact ⟨rfl, entered, closed⟩

/-- In a queue with room for one event, one measurement is handed to a waiter, another is
lost, and a discovery event goes in after the queue was closed and emptied. -/
theorem accounted_of_late_discovery :
    ∃ traffic : Traffic, Reachable 1 traffic ∧ traffic.queue.closed = true ∧
      traffic.queue.pending = [.progress 1] ∧ traffic.queue.dropped = 1 ∧
      traffic.delivered = [.measured ⟨1⟩ .zero] ∧ traffic.Accounted 1 := by
  have published : Reachable 1 (((start 1).begin (.publish (.measured ⟨1⟩ .zero) .looking)).begin
      (.publish (.measured ⟨1⟩ .zero) .looking)) := .begin (.begin .start rfl) rfl
  have stored := @Reachable.act _ _ (@Reachable.act _ _ published 0 _ _ _ _ _ rfl (.pass rfl))
    0 _ _ _ _ _ rfl (.store rfl)
  have lost := @Reachable.act _ _ (@Reachable.act _ _ stored 1 _ _ _ _ _ rfl (.pass rfl))
    1 _ _ _ _ _ rfl (.lose rfl)
  have waiting := @Reachable.begin _ _ lost (.wait .looking) rfl
  have handed := @Reachable.act _ _ (@Reachable.act _ _ waiting 2 _ _ _ _ _ rfl (.letIn rfl))
    2 _ _ _ _ _ rfl (.receive rfl)
  -- The publisher of the discovery event has found the queue open.
  have passed := @Reachable.act _ _
    (@Reachable.begin _ _ handed (.publish (.progress 1) .looking) rfl)
    3 _ _ _ _ _ rfl (.pass rfl)
  have closed := @Reachable.act _ _ (@Reachable.begin _ _ passed (.close .marking) rfl)
    4 _ _ _ _ _ rfl (.mark rfl)
  have drained := @Reachable.act _ _ closed 4 _ _ _ _ _ rfl (.drainNothing rfl)
  have late := @Reachable.act _ _ drained 3 _ _ _ _ _ rfl (.store rfl)
  exact ⟨_, late, rfl, rfl, rfl, rfl, accounted_of_reachable late⟩

end Traffic

end SensorStream
