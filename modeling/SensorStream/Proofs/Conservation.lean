import SensorStream.Proofs.Accounts
import SensorStream.Source.Script

/-!
# Conservation of a dispatcher's counters

One dispatcher is watched from its start while whatever can happen does happen, in
any order: it takes its next step, its source changes, the consumer takes a sample
or goes away, or somebody asks for the end.  Whenever the dispatcher rests, its
counters account for every event that it took and every sample that it put into the
channel.
-/

namespace SensorStream

/-- What can happen to a dispatcher. -/
inductive Occurrence (Source : Type) where
  /-- It takes its next step. -/
  | step
  /-- Its source becomes another one, for instance because events arrive. -/
  | feed (change : Source → Source)
  /-- The consumer takes a sample, if there is one. -/
  | receive
  /-- The consumer goes away. -/
  | dropReceiver
  /-- Somebody asks for the end. -/
  | requestStop

/-- Whether what happens can cost samples that passed down-sampling. -/
def Occurrence.isFinal {Source : Type} : Occurrence Source → Bool
  | .step => false
  | .feed _ => false
  | .receive => false
  | .dropReceiver => true
  | .requestStop => true

namespace Dispatcher

/-- A sample that is received although none is pending goes straight through the
channel. -/
def handover (dispatcher : Dispatcher) : List StreamedSample :=
  match dispatcher.sink.pending, dispatcher.receive.1 with
  | [], .sample sample => [sample]
  | _, _ => []

/-- The dispatcher is between two events, at its end, or holds a sample for which
the channel has no room. -/
inductive Resting (dispatcher : Dispatcher) : Prop where
  | checking (phase : dispatcher.phase = .checking)
  | waiting (phase : dispatcher.phase = .waiting)
  | ended {exit : DispatchExit} (phase : dispatcher.phase = .ended exit)
  | held {sample : StreamedSample} (holds : dispatcher.held? = some sample)

/-- The ways to receive: the first pending sample, a sample straight from the
dispatcher, or nothing. -/
inductive Receipt (dispatcher : Dispatcher) :
    Option StreamedSample → Dispatcher → List StreamedSample → Prop where
  | pending {first : StreamedSample} {rest : List StreamedSample}
      (pending : dispatcher.sink.pending = first :: rest) :
      Receipt dispatcher (some first)
        { dispatcher with sink := { dispatcher.sink with pending := rest } } []
  | direct {sample : StreamedSample} (phase : dispatcher.phase = .delivering sample)
      (bare : dispatcher.sink.pending = []) :
      Receipt dispatcher (some sample) { dispatcher with phase := .forwarding } [sample]
  | nothing : Receipt dispatcher none dispatcher []

theorem receipt_receive (dispatcher : Dispatcher) :
    dispatcher.Receipt dispatcher.receive.1.sample? dispatcher.receive.2 dispatcher.handover := by
  rw [handover, receive, Channel.receive]
  cases pending : dispatcher.sink.pending with
  | cons first rest => exact .pending pending
  | nil =>
      cases dispatcher.sink.senderAlive with
      | false => exact .nothing
      | true =>
          -- Only a channel without any room hands over what is being sent.
          simp only [if_true]
          split
          · rename_i sample _ _ phase
            exact .direct phase pending
          · rename_i same _
            rcases Prod.mk.inj same with ⟨rfl, rfl⟩
            exact .nothing

/-- What is received was pending or goes straight through the channel, and what else was
pending still is. -/
theorem Receipt.split {dispatcher later : Dispatcher} {arrived : Option StreamedSample}
    {direct : List StreamedSample} (receipt : dispatcher.Receipt arrived later direct) :
    arrived.toList ++ later.sink.pending = dispatcher.sink.pending ++ direct ∧
      later.sink.receiverAlive = dispatcher.sink.receiverAlive := by
  cases receipt with
  | pending pending =>
      rw [pending, List.append_nil]
      exact ⟨rfl, rfl⟩
  | direct phase bare =>
      rw [bare]
      exact ⟨rfl, rfl⟩
  | nothing => exact ⟨(List.append_nil _).symm, rfl⟩

end Dispatcher

/-- A dispatcher between its source and its tracker, and what became of its samples. -/
structure Course (Source : Type) where
  pipeline : Pipeline (Journal Source)
  /-- The samples that it put into its channel so far. -/
  placed : List StreamedSample
  /-- The samples that the consumer took from there. -/
  received : List StreamedSample
  /-- The samples that were pending when the consumer went away. -/
  discarded : List StreamedSample

namespace Course

variable {Source : Type}

/-- The dispatcher was just started. -/
def start (every : UInt64) (capacity : Option Nat) (source : Source) : Course Source :=
  ⟨⟨.start source, .fresh, .spawn every (.withCapacity capacity)⟩, [], [], []⟩

/-- The counts of a course are right. -/
def Counted (course : Course Source) : Prop :=
  SensorStream.Counted .fresh course.placed course.pipeline

theorem counted_start (every : UInt64) (capacity : Option Nat) (source : Source) :
    (start every capacity source).Counted :=
  .spawn every (.withCapacity capacity) source .fresh

theorem Counted.receive {course : Course Source} (counted : course.Counted) :
    SensorStream.Counted .fresh (course.placed ++ course.pipeline.dispatcher.handover)
      (course.pipeline.updateDispatcher fun dispatcher => dispatcher.receive.2) := by
  have receipt := course.pipeline.dispatcher.receipt_receive
  simp only [Pipeline.updateDispatcher]
  generalize course.pipeline.dispatcher.receive.1.sample? = arrived at receipt
  generalize course.pipeline.dispatcher.receive.2 = reached at receipt ⊢
  generalize course.pipeline.dispatcher.handover = direct at receipt ⊢
  rcases counted with ⟨recorded, systemEvents, received, balance, forwarded, detached⟩
  cases receipt with
  | pending | nothing =>
      rw [List.append_nil]
      exact ⟨recorded, systemEvents, received, balance, forwarded, detached⟩
  | direct phase =>
      rw [phase] at recorded systemEvents received balance forwarded detached
      refine ⟨recorded, systemEvents, received, balance, ?_, detached⟩
      rw [List.length_append, ← forwarded]
      rfl

theorem intact_receive {every : UInt64} {course : Course Source}
    (intact : Intact every course.placed course.pipeline) :
    Intact every (course.placed ++ course.pipeline.dispatcher.handover)
      (course.pipeline.updateDispatcher fun dispatcher => dispatcher.receive.2) := by
  have receipt := course.pipeline.dispatcher.receipt_receive
  simp only [Pipeline.updateDispatcher]
  generalize course.pipeline.dispatcher.receive.1.sample? = arrived at receipt
  generalize course.pipeline.dispatcher.receive.2 = reached at receipt ⊢
  generalize course.pipeline.dispatcher.handover = direct at receipt ⊢
  rcases intact with ⟨unrequested, received, attached, undropped, sender, passed⟩
  cases receipt with
  | pending | nothing =>
      rw [List.append_nil]
      exact ⟨unrequested, received, attached, undropped, sender, passed⟩
  | direct phase =>
      simp only [Dispatcher.isRunning, Dispatcher.exit?, phase] at sender
      rw [phase] at passed
      rcases passed with ⟨admitted, split, sampled, passed⟩
      refine ⟨unrequested, received, attached, ⟨undropped.1, Phase.noConfusion⟩, sender,
        ⟨admitted, split, sampled, ?_⟩⟩
      simpa [Phase.undelivered] using passed

variable [EventSource Source]

/-- Let something happen.  Nobody receives from a channel whose consumer is gone. -/
def next (course : Course Source) : Occurrence Source → Course Source
  | .step =>
      { course with
        pipeline := course.pipeline.step
        placed := course.placed ++ course.pipeline.dispatcher.placement }
  | .feed change =>
      { course with
        pipeline := course.pipeline.updateSource fun journal => journal.update change }
  | .receive =>
      if course.pipeline.dispatcher.sink.receiverAlive then
        { course with
          pipeline := course.pipeline.updateDispatcher fun dispatcher => dispatcher.receive.2
          placed := course.placed ++ course.pipeline.dispatcher.handover
          received :=
            course.received ++ course.pipeline.dispatcher.receive.1.sample?.toList }
      else course
  | .dropReceiver =>
      { course with
        pipeline := course.pipeline.updateDispatcher fun dispatcher =>
          { dispatcher with sink := dispatcher.sink.dropReceiver }
        discarded := course.discarded ++ course.pipeline.dispatcher.sink.pending }
  | .requestStop =>
      { course with pipeline := course.pipeline.updateDispatcher Dispatcher.requestStop }

/-- Let many things happen, one after the other. -/
def run (course : Course Source) (occurrences : List (Occurrence Source)) : Course Source :=
  occurrences.foldl next course

@[simp] theorem run_nil (course : Course Source) : course.run [] = course := rfl

@[simp] theorem run_append (course : Course Source)
    (earlier later : List (Occurrence Source)) :
    course.run (earlier ++ later) = (course.run earlier).run later :=
  List.foldl_append

theorem Counted.next {course : Course Source} (counted : course.Counted)
    (occurrence : Occurrence Source) : (course.next occurrence).Counted := by
  cases occurrence with
  | step => exact SensorStream.Counted.step counted
  | feed change => exact SensorStream.Counted.withSource counted rfl
  | receive =>
      simp only [Course.next]
      split
      · exact counted.receive
      · exact counted
  | dropReceiver => exact SensorStream.Counted.dropReceiver counted
  | requestStop => exact SensorStream.Counted.requestStop counted

/-- Whatever happens, the counts stay right. -/
theorem Counted.run {course : Course Source} (counted : course.Counted)
    (occurrences : List (Occurrence Source)) : (course.run occurrences).Counted := by
  induction occurrences generalizing course with
  | nil => exact counted
  | cons occurrence later ih => exact ih (counted.next occurrence)

/-! ## What became of the samples in the channel -/

/-- Every sample that was put into the channel was taken by the consumer, is pending, or was
pending when the consumer went away, in this order. -/
structure Traced (course : Course Source) : Prop where
  placed :
    course.received ++ course.discarded ++ course.pipeline.dispatcher.sink.pending = course.placed
  attended : course.pipeline.dispatcher.sink.receiverAlive = true → course.discarded = []

omit [EventSource Source] in
theorem traced_start (every : UInt64) (capacity : Option Nat) (source : Source) :
    (start every capacity source).Traced :=
  ⟨rfl, fun _ => rfl⟩

theorem Traced.next {course : Course Source} (traced : course.Traced)
    (occurrence : Occurrence Source) : (course.next occurrence).Traced := by
  cases occurrence with
  | step =>
      constructor
      · simp only [Course.next]
        rw [pending_step, ← List.append_assoc, traced.placed]
      · intro attended
        exact traced.attended ((Pipeline.receiverAlive_step _).symm.trans attended)
  | receive =>
      simp only [Course.next]
      split
      · rename_i alive
        rcases course.pipeline.dispatcher.receipt_receive.split with ⟨split, still⟩
        constructor
        · have kept := traced.placed
          simp only [traced.attended alive, List.append_nil] at kept ⊢
          simp only [Pipeline.updateDispatcher]
          rw [List.append_assoc, split, ← List.append_assoc, kept]
        · intro attended
          exact traced.attended (still.symm.trans attended)
      · exact traced
  | dropReceiver =>
      constructor
      · simp only [Course.next, Pipeline.updateDispatcher, Channel.dropReceiver]
        rw [List.append_nil, ← List.append_assoc, traced.placed]
      · exact Bool.noConfusion
  | feed | requestStop => exact ⟨traced.placed, traced.attended⟩

/-- Whatever happens, no sample that was put into the channel is unaccounted for. -/
theorem Traced.run {course : Course Source} (traced : course.Traced)
    (occurrences : List (Occurrence Source)) : (course.run occurrences).Traced := by
  induction occurrences generalizing course with
  | nil => exact traced
  | cons occurrence later ih => exact ih (traced.next occurrence)

/-! ## Nothing is lost before the consumer goes away or the end is asked for -/

theorem intact_next {every : UInt64} {course : Course Source}
    (intact : Intact every course.placed course.pipeline) {occurrence : Occurrence Source}
    (harmless : occurrence.isFinal = false) :
    Intact every (course.next occurrence).placed (course.next occurrence).pipeline := by
  cases occurrence with
  | step => exact intact.step
  | feed change => exact intact.withSource rfl
  | receive =>
      simp only [next, intact.received, if_true]
      exact intact_receive intact
  | dropReceiver | requestStop => exact Bool.noConfusion harmless

theorem intact_run {every : UInt64} {course : Course Source}
    (intact : Intact every course.placed course.pipeline) {occurrences : List (Occurrence Source)}
    (harmless : ∀ occurrence ∈ occurrences, occurrence.isFinal = false) :
    Intact every (course.run occurrences).placed (course.run occurrences).pipeline := by
  induction occurrences generalizing course with
  | nil => exact intact
  | cons occurrence later ih =>
      have first := intact_next intact (harmless occurrence (by simp))
      exact ih first fun other member => harmless other (by simp [member])

/-! ## A dispatcher that found its consumer gone -/

/-- The dispatcher found its consumer gone, after it had put `placed` into the
channel and had counted `forwarded` of them. -/
structure Unattached (placed : List StreamedSample) (forwarded : Nat)
    (course : Course Source) : Prop where
  attached : course.pipeline.dispatcher.attached = false
  placed : course.placed = placed
  forwarded : course.pipeline.dispatcher.stats.forwarded = forwarded

theorem Unattached.step {placed : List StreamedSample} {forwarded : Nat} {course : Course Source}
    (counted : course.Counted) (unattached : Unattached placed forwarded course) :
    Unattached placed forwarded (course.next .step) := by
  have advance := course.pipeline.advance_step
  have idle := (counted.detached unattached.attached).2
  rcases unattached with ⟨attached, samePlaced, sameForwarded⟩
  simp only [next, Dispatcher.placement]
  generalize course.pipeline.step = later at advance ⊢
  cases advance with
  | send phase | stall phase | detach phase | retry phase | giveUp phase | countForwarded phase =>
      rw [phase] at idle
      exact Bool.noConfusion idle
  | letThrough _ _ isAttached => exact Bool.noConfusion (isAttached.symm.trans attached)
  | wait phase =>
      simp only [phase, List.append_nil]
      exact ⟨by simpa using attached, samePlaced, by simpa using sameForwarded⟩
  | cancel phase | goOn phase | countNotice phase | countMeasurement phase | passOver phase
    | record phase | suppress phase | lose phase | countSuppressed phase | countDropped phase
    | stay phase =>
      simp only [phase, List.append_nil]
      exact ⟨attached, samePlaced, sameForwarded⟩

theorem Unattached.next {placed : List StreamedSample} {forwarded : Nat} {course : Course Source}
    (counted : course.Counted) (unattached : Unattached placed forwarded course)
    (occurrence : Occurrence Source) :
    Unattached placed forwarded (course.next occurrence) := by
  have gone := (counted.detached unattached.attached).1
  cases occurrence with
  | step => exact unattached.step counted
  | receive =>
      simp only [Course.next, gone, Bool.false_eq_true, if_false]
      exact unattached
  | feed _ | dropReceiver | requestStop =>
      exact ⟨unattached.attached, unattached.placed, unattached.forwarded⟩

/-- A dispatcher that found its consumer gone puts nothing into the channel any
more, whatever happens. -/
theorem Unattached.run {placed : List StreamedSample} {forwarded : Nat} {course : Course Source}
    (counted : course.Counted) (unattached : Unattached placed forwarded course)
    (occurrences : List (Occurrence Source)) :
    Unattached placed forwarded (course.run occurrences) := by
  induction occurrences generalizing course with
  | nil => exact unattached
  | cons occurrence later ih =>
      exact ih (counted.next occurrence) (unattached.next counted occurrence)

/-! ## The books of a dispatcher that rests -/

/-- What the counters of a dispatcher say that was started afresh and saw so many
things happen. -/
structure Conserved (fresh : Course Source) (occurrences : List (Occurrence Source)) : Prop where
  /-- Every measurement of a connection that was taken is counted. -/
  received :
    (fresh.run occurrences).pipeline.dispatcher.stats.received =
      (measurementsIn (fresh.run occurrences).pipeline.source.taken).length
  /-- Every discovery event of the system that was taken is counted. -/
  systemEvents :
    (fresh.run occurrences).pipeline.dispatcher.stats.systemEvents =
      (noticesIn (fresh.run occurrences).pipeline.source.taken).length
  /-- The tracker knows these discovery events and nothing else. -/
  tracker :
    (fresh.run occurrences).pipeline.tracker =
      (noticesIn (fresh.run occurrences).pipeline.source.taken).foldl Tracker.record .fresh
  /-- An event that is neither changes no counter and not the tracker. -/
  passedOver : ∀ event : Event, event.notice? = none → event.measurement? = none →
    (fresh.run occurrences).pipeline.dispatcher.phase = .waiting →
    (EventSource.wait (fresh.run occurrences).pipeline.source).1 = .event event →
    (fresh.run (occurrences ++ [.step, .step])).pipeline.tracker =
        (fresh.run occurrences).pipeline.tracker ∧
      (fresh.run (occurrences ++ [.step, .step])).pipeline.dispatcher =
        { (fresh.run occurrences).pipeline.dispatcher with phase := .checking }
  /-- A measurement was sent, left out or lost, unless it is being held. -/
  balance :
    (fresh.run occurrences).pipeline.dispatcher.stats.received =
      (fresh.run occurrences).pipeline.dispatcher.stats.forwarded +
        (fresh.run occurrences).pipeline.dispatcher.stats.suppressed +
        (fresh.run occurrences).pipeline.dispatcher.stats.dropped +
        if (fresh.run occurrences).pipeline.dispatcher.held?.isSome then 1 else 0
  /-- What was put into the channel is what counts as sent. -/
  forwarded :
    (fresh.run occurrences).pipeline.dispatcher.stats.forwarded =
      (fresh.run occurrences).placed.length
  /-- The consumer took it from there, it is pending there, or it was when the consumer went
  away. -/
  placed :
    (fresh.run occurrences).received ++ (fresh.run occurrences).discarded ++
        (fresh.run occurrences).pipeline.dispatcher.sink.pending =
      (fresh.run occurrences).placed
  /-- While the consumer is there nothing of it is lost. -/
  undiscarded : (fresh.run occurrences).pipeline.dispatcher.sink.receiverAlive = true →
    (fresh.run occurrences).discarded = []
  /-- No counter exceeds the number of events that were taken. -/
  bounded : (fresh.run occurrences).pipeline.dispatcher.stats.Within
    (fresh.run occurrences).pipeline.source.taken.length
  /-- Nothing is lost while the consumer is there and nobody asked for the end. -/
  undropped : (∀ occurrence ∈ occurrences, occurrence.isFinal = false) →
    (fresh.run occurrences).pipeline.dispatcher.stats.dropped = 0
  /-- Once the consumer was found gone nothing is sent any more. -/
  unattached : ∀ earlier later : List (Occurrence Source), occurrences = earlier ++ later →
    (fresh.run earlier).pipeline.dispatcher.attached = false →
    (fresh.run occurrences).pipeline.dispatcher.attached = false ∧
      (fresh.run occurrences).placed = (fresh.run earlier).placed ∧
      (fresh.run occurrences).pipeline.dispatcher.stats.forwarded =
        (fresh.run earlier).pipeline.dispatcher.stats.forwarded

end Course

/-- A dispatcher that rests owes no more than the sample that it holds. -/
theorem Dispatcher.Resting.settled {dispatcher : Dispatcher} (resting : dispatcher.Resting) :
    dispatcher.phase.uncounted = [] ∧ dispatcher.phase.unrecorded = [] ∧
      dispatcher.phase.unforwarded = 0 ∧
      dispatcher.phase.owed = if dispatcher.held?.isSome then 1 else 0 := by
  cases resting with
  | checking phase | waiting phase | ended phase =>
      simp only [Dispatcher.held?, phase]
      exact ⟨rfl, rfl, rfl, rfl⟩
  | held holds =>
      rw [holds]
      rw [Dispatcher.held?] at holds
      split at holds
      case h_1 phase | h_2 phase =>
        rw [phase]
        exact ⟨rfl, rfl, rfl, rfl⟩
      case h_3 => cases holds

/-- Nor does it hold back any other measurement. -/
theorem Dispatcher.Resting.held_only {dispatcher : Dispatcher} (resting : dispatcher.Resting) :
    dispatcher.phase.unadmitted = [] ∧
      dispatcher.phase.undelivered = dispatcher.held?.toList := by
  cases resting with
  | checking phase | waiting phase | ended phase =>
      simp only [Dispatcher.held?, phase]
      exact ⟨rfl, rfl⟩
  | @held sample holds =>
      rw [holds]
      rw [Dispatcher.held?] at holds
      split at holds
      case h_1 phase | h_2 phase =>
        rw [phase]
        split at holds
        · cases holds
          exact ⟨rfl, rfl⟩
        · cases holds
      case h_3 => cases holds

namespace Course

variable {Source : Type} [EventSource Source]

/-- An event that is neither is taken and passed over in two steps. -/
theorem run_passedOver (course : Course Source) {event : Event} (noNotice : event.notice? = none)
    (noMeasurement : event.measurement? = none)
    (phase : course.pipeline.dispatcher.phase = .waiting)
    (arrives : (EventSource.wait course.pipeline.source).1 = .event event) :
    (course.run [.step, .step]).pipeline.tracker = course.pipeline.tracker ∧
      (course.run [.step, .step]).pipeline.dispatcher =
        { course.pipeline.dispatcher with phase := .checking } := by
  simp [run, next, Pipeline.step, phase, arrives, Dispatcher.resume, Dispatcher.step,
    Dispatcher.handle, noNotice, noMeasurement]

/-- Whatever happens to a dispatcher with any down-sampling and any channel, its
counters account for everything whenever it rests. -/
theorem conserved_of_resting (every : UInt64) (capacity : Option Nat) (source : Source)
    (occurrences : List (Occurrence Source))
    (resting : ((start every capacity source).run occurrences).pipeline.dispatcher.Resting) :
    Conserved (start every capacity source) occurrences := by
  have counted := (counted_start every capacity source).run occurrences
  have bounded := counted.within
  have traced := (traced_start every capacity source).run occurrences
  rcases resting.settled with ⟨uncounted, unrecorded, unforwarded, owed⟩
  rcases counted with ⟨⟨recorded, split, tracked⟩, systemEvents, received, balance, forwarded, _⟩
  rw [unrecorded, List.append_nil] at split
  rw [uncounted] at systemEvents received
  constructor
  · exact received
  · exact systemEvents
  · rw [split, tracked]
  · intro event noNotice noMeasurement phase arrives
    rw [run_append]
    exact run_passedOver _ noNotice noMeasurement phase arrives
  · rw [balance, owed]
  · rw [← forwarded, unforwarded]
    rfl
  · exact traced.placed
  · exact traced.attended
  · exact bounded
  · intro harmless
    exact (intact_run (.spawn every capacity source .fresh) harmless).undropped.1
  · intro earlier later parts attached
    have reached : Unattached _ _ ((start every capacity source).run earlier) :=
      ⟨attached, rfl, rfl⟩
    have final := reached.run ((counted_start every capacity source).run earlier) later
    rw [parts, run_append]
    exact ⟨final.attached, final.placed, final.forwarded⟩

/-- Every second measurement is left out and the channel has room for one sample: of
three measurements one is sent, one is left out and one is held. -/
theorem conserved_of_held :
    Conserved
      (start 2 (some 1)
        (Script.push (.ofResults [] [])
          [.event (.found ⟨"", "", .simulated, ""⟩), .event (.measured ⟨1⟩ .zero),
            .event (.measured ⟨1⟩ .zero), .event (.progress 1), .event (.measured ⟨1⟩ .zero)]))
      (List.replicate 28 .step) :=
  conserved_of_resting 2 (some 1) _ _ (.held (by rfl : _ = some ⟨⟨1⟩, 3, .zero⟩))

end Course

end SensorStream
