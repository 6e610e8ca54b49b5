import SensorStream.Proofs.Advance
import SensorStream.Proofs.Journal

/-!
# The accounts of a dispatcher

A dispatcher counts an event at one moment and finishes with it at a later one.
The phase says what it still owes in between, so each count can be tied to the
events that were taken, at every moment and not only between two events.

`Counted` holds for a dispatcher whatever its caller does.  `Intact` holds for
one that nobody asked to stop and whose consumer is still there: it has lost
nothing.  `Counted.step` and `Intact.step` say that the dispatcher's own steps
keep them.
-/

namespace SensorStream

namespace Phase

/-- Events that were taken and not counted yet. -/
def uncounted : Phase → List Event
  | .handling event => [event]
  | _ => []

/-- Discovery events that the tracker does not know yet. -/
def unrecorded : Phase → List Notice
  | .handling event => noticesIn [event]
  | .recording notice => [notice]
  | _ => []

/-- Measurements that were not down-sampled yet. -/
def unadmitted : Phase → List (Handle × Sample)
  | .handling event => measurementsIn [event]
  | .admitting sensor sample => [(sensor, sample)]
  | _ => []

/-- Samples that passed and are still to be sent. -/
def undelivered : Phase → List StreamedSample
  | .delivering sample => [sample]
  | .stalled sample => [sample]
  | _ => []

/-- Measurements that were counted when they came and not yet when they went. -/
def owed : Phase → Nat
  | .admitting _ _ => 1
  | .suppressing => 1
  | .delivering _ => 1
  | .stalled _ => 1
  | .forwarding => 1
  | .dropping => 1
  | _ => 0

/-- Samples that were sent and not counted yet. -/
def unforwarded : Phase → Nat
  | .forwarding => 1
  | _ => 0

/-- Whether a sample is on its way into the channel. -/
def isSending : Phase → Bool
  | .delivering _ => true
  | .stalled _ => true
  | .forwarding => true
  | _ => false

end Phase

namespace Dispatcher

/-- The sample that the next step puts into the channel. -/
def placement (dispatcher : Dispatcher) : List StreamedSample :=
  match dispatcher.phase with
  | .delivering sample =>
      if dispatcher.sink.receiverAlive && !dispatcher.sink.isFull then [sample] else []
  | _ => []

/-- A dispatcher that does not run is at its end. -/
theorem phase_of_not_running {dispatcher : Dispatcher} (halted : dispatcher.isRunning = false) :
    ∃ exit : DispatchExit, dispatcher.phase = .ended exit := by
  rw [isRunning, exit?] at halted
  split at halted
  case h_1 exit phase => exact ⟨exit, phase⟩
  case h_2 => exact Bool.noConfusion halted

/-! ## Resuming after a wait -/

section Resume

variable (dispatcher : Dispatcher) (result : WaitResult)

@[simp] theorem stopRequested_resume :
    (dispatcher.resume result).stopRequested = dispatcher.stopRequested := by
  unfold resume
  split <;> rfl

@[simp] theorem stats_resume : (dispatcher.resume result).stats = dispatcher.stats := by
  unfold resume
  split <;> rfl

@[simp] theorem downSampler_resume :
    (dispatcher.resume result).downSampler = dispatcher.downSampler := by
  unfold resume
  split <;> rfl

@[simp] theorem attached_resume : (dispatcher.resume result).attached = dispatcher.attached := by
  unfold resume
  split <;> rfl

@[simp] theorem receiverAlive_resume :
    (dispatcher.resume result).sink.receiverAlive = dispatcher.sink.receiverAlive := by
  unfold resume
  split <;> rfl

@[simp] theorem pending_resume :
    (dispatcher.resume result).sink.pending = dispatcher.sink.pending := by
  unfold resume
  split <;> rfl

/-- What a wait brought is neither counted nor handed on at once. -/
@[simp] theorem uncounted_resume :
    (dispatcher.resume result).phase.uncounted = result.event?.toList := by
  unfold resume
  split <;> rfl

@[simp] theorem unrecorded_resume :
    (dispatcher.resume result).phase.unrecorded = noticesIn result.event?.toList := by
  unfold resume
  split <;> rfl

@[simp] theorem unadmitted_resume :
    (dispatcher.resume result).phase.unadmitted = measurementsIn result.event?.toList := by
  unfold resume
  split <;> rfl

@[simp] theorem undelivered_resume : (dispatcher.resume result).phase.undelivered = [] := by
  unfold resume
  split <;> rfl

@[simp] theorem owed_resume : (dispatcher.resume result).phase.owed = 0 := by
  unfold resume
  split <;> rfl

@[simp] theorem unforwarded_resume : (dispatcher.resume result).phase.unforwarded = 0 := by
  unfold resume
  split <;> rfl

theorem phase_resume_ne_dropping : (dispatcher.resume result).phase ≠ .dropping := by
  unfold resume
  split <;> exact Phase.noConfusion

/-- A wait that ends the dispatcher also ends the sending. -/
theorem senderAlive_resume (sending : dispatcher.sink.senderAlive = true) :
    (dispatcher.resume result).sink.senderAlive = (dispatcher.resume result).isRunning := by
  unfold resume
  split <;> first | exact sending | rfl

@[simp] theorem isSending_resume : (dispatcher.resume result).phase.isSending = false := by
  unfold resume
  split <;> rfl

end Resume

end Dispatcher

variable {Source : Type}

/-- The counts agree with the events that were taken and the samples that were put
into the channel.  The tracker was in the state `origin` at first. -/
structure Counted (origin : Tracker) (placed : List StreamedSample)
    (pipeline : Pipeline (Journal Source)) : Prop where
  recorded : ∃ recorded,
    noticesIn pipeline.source.taken = recorded ++ pipeline.dispatcher.phase.unrecorded ∧
      pipeline.tracker = recorded.foldl Tracker.record origin
  systemEvents :
    pipeline.dispatcher.stats.systemEvents +
        (noticesIn pipeline.dispatcher.phase.uncounted).length =
      (noticesIn pipeline.source.taken).length
  received :
    pipeline.dispatcher.stats.received +
        (measurementsIn pipeline.dispatcher.phase.uncounted).length =
      (measurementsIn pipeline.source.taken).length
  balance :
    pipeline.dispatcher.stats.received =
      pipeline.dispatcher.stats.forwarded + pipeline.dispatcher.stats.suppressed +
        pipeline.dispatcher.stats.dropped + pipeline.dispatcher.phase.owed
  forwarded :
    pipeline.dispatcher.stats.forwarded + pipeline.dispatcher.phase.unforwarded = placed.length
  detached : pipeline.dispatcher.attached = false →
    pipeline.dispatcher.sink.receiverAlive = false ∧
      pipeline.dispatcher.phase.isSending = false

theorem Counted.spawn (every : UInt64) (sink : Channel) (source : Source) (origin : Tracker) :
    Counted origin [] ⟨.start source, origin, .spawn every sink⟩ where
  recorded := ⟨[], rfl, rfl⟩
  systemEvents := rfl
  received := rfl
  balance := rfl
  forwarded := rfl
  detached := Bool.noConfusion

/-- An event is counted once when it comes and once when it goes, so no count exceeds the number
of events. -/
theorem Counted.within {origin : Tracker} {placed : List StreamedSample}
    {pipeline : Pipeline (Journal Source)} (counted : Counted origin placed pipeline) :
    pipeline.dispatcher.stats.Within pipeline.source.taken.length := by
  have notices : (noticesIn pipeline.source.taken).length ≤ pipeline.source.taken.length :=
    List.length_filterMap_le _ _
  have measurements : (measurementsIn pipeline.source.taken).length ≤
      pipeline.source.taken.length := List.length_filterMap_le _ _
  rcases counted with ⟨_, systemEvents, received, balance, _, _⟩
  constructor <;> omega

/-- Only the events that were taken matter of the source. -/
theorem Counted.withSource {origin : Tracker} {placed : List StreamedSample}
    {pipeline : Pipeline (Journal Source)} (counted : Counted origin placed pipeline)
    {source : Journal Source} (same : source.taken = pipeline.source.taken) :
    Counted origin placed { pipeline with source := source } := by
  rcases counted with ⟨recorded, systemEvents, received, balance, forwarded, detached⟩
  rw [← same] at recorded systemEvents received
  exact ⟨recorded, systemEvents, received, balance, forwarded, detached⟩

theorem Counted.requestStop {origin : Tracker} {placed : List StreamedSample}
    {pipeline : Pipeline (Journal Source)} (counted : Counted origin placed pipeline) :
    Counted origin placed (pipeline.updateDispatcher Dispatcher.requestStop) := by
  rcases counted with ⟨recorded, systemEvents, received, balance, forwarded, detached⟩
  exact ⟨recorded, systemEvents, received, balance, forwarded, detached⟩

theorem Counted.dropReceiver {origin : Tracker} {placed : List StreamedSample}
    {pipeline : Pipeline (Journal Source)} (counted : Counted origin placed pipeline) :
    Counted origin placed (pipeline.updateDispatcher fun dispatcher =>
      { dispatcher with sink := dispatcher.sink.dropReceiver }) := by
  rcases counted with ⟨recorded, systemEvents, received, balance, forwarded, detached⟩
  refine ⟨recorded, systemEvents, received, balance, forwarded, ?_⟩
  intro unattached
  exact ⟨rfl, (detached unattached).2⟩

/-- Nobody asked the dispatcher to stop, its consumer is there, and nothing of what
passed down-sampling has been lost: it is in the channel, was taken from there, or is
about to be sent. -/
structure Intact (every : UInt64) (placed : List StreamedSample)
    (pipeline : Pipeline (Journal Source)) : Prop where
  unrequested : pipeline.dispatcher.stopRequested = false
  received : pipeline.dispatcher.sink.receiverAlive = true
  attached : pipeline.dispatcher.attached = true
  undropped : pipeline.dispatcher.stats.dropped = 0 ∧ pipeline.dispatcher.phase ≠ .dropping
  sender : pipeline.dispatcher.sink.senderAlive = pipeline.dispatcher.isRunning
  passed : ∃ admitted,
    measurementsIn pipeline.source.taken = admitted ++ pipeline.dispatcher.phase.unadmitted ∧
      pipeline.dispatcher.downSampler = (DownSampler.fresh every).after admitted ∧
      (DownSampler.fresh every).passed admitted =
        placed ++ pipeline.dispatcher.phase.undelivered

theorem Intact.spawn (every : UInt64) (capacity : Option Nat) (source : Source)
    (origin : Tracker) :
    Intact every [] ⟨.start source, origin, .spawn every (.withCapacity capacity)⟩ where
  unrequested := rfl
  received := rfl
  attached := rfl
  undropped := ⟨rfl, Phase.noConfusion⟩
  sender := rfl
  passed := ⟨[], rfl, rfl, rfl⟩

theorem Intact.withSource {every : UInt64} {placed : List StreamedSample}
    {pipeline : Pipeline (Journal Source)} (intact : Intact every placed pipeline)
    {source : Journal Source} (same : source.taken = pipeline.source.taken) :
    Intact every placed { pipeline with source := source } := by
  rcases intact with ⟨unrequested, received, attached, undropped, sender, passed⟩
  rw [← same] at passed
  exact ⟨unrequested, received, attached, undropped, sender, passed⟩

/-! ## The dispatcher's own steps -/

variable [EventSource Source]

theorem Counted.step {origin : Tracker} {placed : List StreamedSample}
    {pipeline : Pipeline (Journal Source)} (counted : Counted origin placed pipeline) :
    Counted origin (placed ++ pipeline.dispatcher.placement) pipeline.step := by
  have advance := pipeline.advance_step
  generalize pipeline.step = later at advance ⊢
  rcases counted with
      ⟨⟨recorded, split, tracked⟩, systemEvents, received, balance, forwarded, detached⟩
  rw [Dispatcher.placement]
  -- A step passes a debt of the phase on or settles it, and the sums stay the same.
  cases advance with
  | cancel phase _ | goOn phase _ | suppress phase _ | lose phase _ _ | retry phase _ =>
      rw [phase] at split systemEvents received balance forwarded detached
      simp only [phase, List.append_nil]
      exact ⟨⟨recorded, split, tracked⟩, systemEvents, received, balance, forwarded, detached⟩
  | stay phase =>
      simp only [phase, List.append_nil]
      exact ⟨⟨recorded, split, tracked⟩, systemEvents, received, balance, forwarded, detached⟩
  | wait phase =>
      rw [phase] at split systemEvents received balance forwarded detached
      simp only [Phase.uncounted, Phase.unrecorded, Phase.owed, Phase.unforwarded, noticesIn_nil,
        measurementsIn_nil, List.append_nil, List.length_nil, Nat.add_zero]
        at split systemEvents received balance forwarded
      simp only [phase, List.append_nil]
      constructor
      · refine ⟨recorded, ?_, tracked⟩
        rw [Journal.taken_wait, noticesIn_append, split, Dispatcher.unrecorded_resume]
      · simp [systemEvents]
      · simp [received]
      · simpa using balance
      · simpa using forwarded
      · intro unattached
        rw [Dispatcher.attached_resume] at unattached
        simpa using (detached unattached).1
  | countNotice phase carried =>
      rw [phase] at split systemEvents received balance forwarded detached
      simp only [Phase.unrecorded, Phase.uncounted, noticesIn_singleton, measurementsIn_singleton,
        carried, Event.measurement?_of_notice? carried] at split systemEvents received
      simp only [phase, List.append_nil]
      exact ⟨⟨recorded, split, tracked⟩, systemEvents, received, balance, forwarded, detached⟩
  | countMeasurement phase noNotice carried =>
      rw [phase] at split systemEvents received balance forwarded detached
      simp only [Phase.unrecorded, Phase.uncounted, noticesIn_singleton, measurementsIn_singleton,
        noNotice, carried] at split systemEvents received
      simp only [phase, List.append_nil]
      exact ⟨⟨recorded, split, tracked⟩, systemEvents, received, congrArg (· + 1) balance,
        forwarded, detached⟩
  | passOver phase noNotice noMeasurement =>
      rw [phase] at split systemEvents received balance forwarded detached
      simp only [Phase.unrecorded, Phase.uncounted, noticesIn_singleton, measurementsIn_singleton,
        noNotice, noMeasurement] at split systemEvents received
      simp only [phase, List.append_nil]
      exact ⟨⟨recorded, split, tracked⟩, systemEvents, received, balance, forwarded, detached⟩
  | @record notice phase =>
      rw [phase] at split systemEvents received balance forwarded detached
      simp only [phase, List.append_nil]
      refine ⟨⟨recorded ++ [notice], ?_, ?_⟩, systemEvents, received, balance, forwarded, detached⟩
      · rw [split]
        exact (List.append_nil _).symm
      · rw [List.foldl_append, ← tracked]
        rfl
  | letThrough phase _ attached =>
      rw [phase] at split systemEvents received balance forwarded detached
      simp only [phase, List.append_nil]
      refine ⟨⟨recorded, split, tracked⟩, systemEvents, received, balance, forwarded, ?_⟩
      intro unattached
      exact Bool.noConfusion (attached.symm.trans unattached)
  | send phase alive room =>
      rw [phase] at split systemEvents received balance forwarded detached
      simp only [phase, alive, room]
      refine ⟨⟨recorded, split, tracked⟩, systemEvents, received, balance, ?_, ?_⟩
      · rw [List.length_append, ← forwarded]
        rfl
      · intro unattached
        exact Bool.noConfusion (detached unattached).2
  | stall phase alive full =>
      rw [phase] at split systemEvents received balance forwarded detached
      simp only [phase, alive, full, Bool.not_true, Bool.and_false, Bool.false_eq_true, if_false,
        List.append_nil]
      exact ⟨⟨recorded, split, tracked⟩, systemEvents, received, balance, forwarded, detached⟩
  | detach phase gone =>
      rw [phase] at split systemEvents received balance forwarded detached
      simp only [phase, gone, Bool.false_and, Bool.false_eq_true, if_false, List.append_nil]
      exact ⟨⟨recorded, split, tracked⟩, systemEvents, received, balance, forwarded,
        fun _ => ⟨gone, rfl⟩⟩
  | giveUp phase _ =>
      rw [phase] at split systemEvents received balance forwarded detached
      simp only [phase, List.append_nil]
      exact ⟨⟨recorded, split, tracked⟩, systemEvents, received, balance, forwarded,
        fun unattached => ⟨(detached unattached).1, rfl⟩⟩
  | countSuppressed phase | countForwarded phase | countDropped phase =>
      rw [phase] at split systemEvents received balance forwarded detached
      simp only [phase, List.append_nil]
      simp only [Phase.owed, Phase.unforwarded] at balance forwarded
      refine ⟨⟨recorded, split, tracked⟩, systemEvents, received, ?_, ?_, ?_⟩
      · simp only [Phase.owed]
        omega
      · simpa only [Phase.unforwarded] using forwarded
      · intro unattached
        exact ⟨(detached unattached).1, rfl⟩

theorem Intact.step {every : UInt64} {placed : List StreamedSample}
    {pipeline : Pipeline (Journal Source)} (intact : Intact every placed pipeline) :
    Intact every (placed ++ pipeline.dispatcher.placement) pipeline.step := by
  have advance := pipeline.advance_step
  generalize pipeline.step = later at advance ⊢
  rcases intact with
      ⟨unrequested, received, attached, ⟨undropped, notDropping⟩, sender,
        ⟨admitted, split, sampled, passed⟩⟩
  simp only [Dispatcher.isRunning, Dispatcher.exit?] at sender
  rw [Dispatcher.placement]
  -- Only the first branches, up to `countDropped`, lose something or lead to a loss, and
  -- an intact dispatcher takes none of them.
  cases advance with
  | cancel phase requested | giveUp phase requested =>
      exact Bool.noConfusion (requested.symm.trans unrequested)
  | lose phase _ unattached =>
      exact Bool.noConfusion (attached.symm.trans unattached)
  | detach phase gone =>
      exact Bool.noConfusion (received.symm.trans gone)
  | countDropped phase => exact absurd phase notDropping
  | goOn phase _ | record phase | retry phase _ | countSuppressed phase | countForwarded phase =>
      rw [phase] at split passed sender
      simp only [phase, List.append_nil]
      exact ⟨unrequested, received, attached, ⟨undropped, Phase.noConfusion⟩, sender,
        ⟨admitted, split, sampled, passed⟩⟩
  | stay phase =>
      simp only [phase, List.append_nil]
      exact ⟨unrequested, received, attached, ⟨undropped, notDropping⟩, sender,
        ⟨admitted, split, sampled, passed⟩⟩
  | wait phase =>
      rw [phase] at split passed sender
      simp only [Phase.unadmitted, Phase.undelivered, List.append_nil] at split passed
      simp only [phase, List.append_nil]
      have notDropping := pipeline.dispatcher.phase_resume_ne_dropping
        (EventSource.wait pipeline.source).1
      refine ⟨by simpa, by simpa, by simpa, ⟨by simpa, notDropping⟩, ?_, ?_⟩
      · exact Dispatcher.senderAlive_resume _ _ sender
      · refine ⟨admitted, ?_, by simpa, by simpa⟩
        rw [Journal.taken_wait, measurementsIn_append, split, Dispatcher.unadmitted_resume]
  | countNotice phase carried =>
      rw [phase] at split passed sender
      simp only [Phase.unadmitted, measurementsIn_singleton,
        Event.measurement?_of_notice? carried] at split
      simp only [phase, List.append_nil]
      exact ⟨unrequested, received, attached, ⟨undropped, Phase.noConfusion⟩, sender,
        ⟨admitted, split, sampled, passed⟩⟩
  | countMeasurement phase _ carried | passOver phase _ carried =>
      rw [phase] at split passed sender
      simp only [Phase.unadmitted, measurementsIn_singleton, carried] at split
      simp only [phase, List.append_nil]
      exact ⟨unrequested, received, attached, ⟨undropped, Phase.noConfusion⟩, sender,
        ⟨admitted, split, sampled, passed⟩⟩
  | @suppress sensor sample phase decided | @letThrough sensor sample _ phase decided _ =>
      rw [phase] at split passed sender
      rw [sampled] at decided
      simp only [Phase.undelivered, List.append_nil] at passed
      simp only [phase, List.append_nil]
      refine ⟨unrequested, received, attached, ⟨undropped, Phase.noConfusion⟩, sender,
        ⟨admitted ++ [(sensor, sample)], ?_, ?_, ?_⟩⟩
      · simpa [Phase.unadmitted] using split
      · rw [sampled, DownSampler.after_append]
      · rw [DownSampler.passed_append, passed, DownSampler.passed_singleton, decided]
        rfl
  | send phase alive room =>
      rw [phase] at split passed sender
      simp only [phase, alive, room, Bool.not_false, Bool.and_true, if_true]
      refine ⟨unrequested, rfl, attached, ⟨undropped, Phase.noConfusion⟩, sender,
        ⟨admitted, split, sampled, ?_⟩⟩
      simpa [Phase.undelivered] using passed
  | stall phase alive full =>
      rw [phase] at split passed sender
      simp only [phase, alive, full, Bool.not_true, Bool.and_false, Bool.false_eq_true, if_false,
        List.append_nil]
      exact ⟨unrequested, alive, attached, ⟨undropped, Phase.noConfusion⟩, sender,
        ⟨admitted, split, sampled, passed⟩⟩

/-- No step takes the consumer's end of the channel away. -/
theorem Pipeline.receiverAlive_step (pipeline : Pipeline Source) :
    pipeline.step.dispatcher.sink.receiverAlive = pipeline.dispatcher.sink.receiverAlive := by
  have advance := pipeline.advance_step
  generalize pipeline.step = later at advance ⊢
  cases advance with
  | wait => exact Dispatcher.receiverAlive_resume _ _
  | _ => rfl

/-- What a step puts into the channel goes to the end of what is pending there. -/
theorem pending_step (pipeline : Pipeline Source) :
    pipeline.step.dispatcher.sink.pending =
      pipeline.dispatcher.sink.pending ++ pipeline.dispatcher.placement := by
  have advance := pipeline.advance_step
  generalize pipeline.step = later at advance ⊢
  rw [Dispatcher.placement]
  cases advance with
  | send phase alive room => simp [phase, alive, room]
  | stall phase alive full => simp [phase, full]
  | detach phase gone => simp [phase, gone, Channel.dropSender]
  | wait phase => simp [phase]
  | cancel phase | goOn phase | countNotice phase | countMeasurement phase | passOver phase
    | record phase | suppress phase | letThrough phase | lose phase | giveUp phase | retry phase
    | countSuppressed phase | countForwarded phase | countDropped phase | stay phase =>
      simp [phase, Dispatcher.finish, Channel.dropSender]

end SensorStream
