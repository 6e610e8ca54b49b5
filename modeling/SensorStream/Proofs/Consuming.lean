import Mathlib.Data.List.Induction
import SensorStream.Proofs.Accounts
import SensorStream.Proofs.Interleaving

/-!
# What a consumer is handed

A consumer looks at the channel and waits between two looks, whether it wants one
sample or observes a window.  A statement about the samples that it was handed so far
and the world around it is kept by both if it is kept by one look and by one wait.

`Serving` is such a statement about the dispatcher at the other end of the channel:
what the consumer was handed, followed by what is pending, is all that the dispatcher
put into the channel.
-/

namespace SensorStream

namespace Channel

/-- The sample that arrived, if one did. -/
def Arrival.samples : Arrival → List StreamedSample
  | .sample received => [received]
  | .nothing => []
  | .stopped => []

/-- A consumer takes samples from the front of what is pending and changes nothing
else. -/
theorem receive_eq (channel : Channel) :
    ∃ rest : List StreamedSample, channel.pending = channel.receive.1.samples ++ rest ∧
      channel.receive.2 = { channel with pending := rest } := by
  rcases channel with ⟨capacity, pending, senderAlive, receiverAlive⟩
  cases pending with
  | cons first rest => exact ⟨rest, rfl, rfl⟩
  | nil =>
      refine ⟨[], ?_, rfl⟩
      cases senderAlive <;> rfl

/-- A consumer finds no sample exactly if none is pending. -/
theorem bare_iff {channel : Channel} :
    channel.receive.1.samples = [] ↔ channel.pending = [] := by
  rw [receive]
  cases channel.pending with
  | nil => cases channel.senderAlive <;> simp [Arrival.samples]
  | cons first rest => simp [Arrival.samples]

/-- A consumer that finds no sample leaves the channel as it is. -/
theorem receive_of_bare {channel : Channel} (bare : channel.receive.1.samples = []) :
    channel.receive.2 = channel := by
  rcases channel.receive_eq with ⟨rest, pending, left⟩
  rw [bare, List.nil_append] at pending
  rw [left, ← pending]

end Channel

/-! ## What an observation counts -/

namespace Totals

/-- An observation counts the samples that it saw. -/
theorem accepted_ofSamples (samples : List StreamedSample) :
    (ofSamples samples).accepted = samples.length := by
  induction samples using List.reverseRecOn with
  | nil => rfl
  | append_singleton samples sample ih =>
      rw [ofSamples_concat, record, ih, List.length_append, List.length_singleton]

/-- An observation counts each sample once, for its sensor. -/
theorem total_ofSamples (samples : List StreamedSample) :
    (ofSamples samples).accepted = (ofSamples samples).perSensor.total := by
  induction samples using List.reverseRecOn with
  | nil => rfl
  | append_singleton samples sample ih => rw [ofSamples_concat, record, Tally.total_add, ih]

theorem count_ofSamples (samples : List StreamedSample) (handle : Handle) :
    (ofSamples samples).perSensor.count handle =
      samples.countP fun sample => sample.sensor = handle := by
  induction samples using List.reverseRecOn with
  | nil => rfl
  | append_singleton samples sample ih =>
      rw [ofSamples_concat, record, Tally.count_add, ih, List.countP_append,
        List.countP_singleton]
      simp only [decide_eq_true_eq]

theorem sound_ofSamples (samples : List StreamedSample) : (ofSamples samples).perSensor.Sound := by
  induction samples using List.reverseRecOn with
  | nil => exact Tally.sound_empty
  | append_singleton samples sample ih =>
      rw [ofSamples_concat]
      exact ih.add sample.sensor

end Totals

/-! ## In any surroundings -/

namespace Surroundings

variable {World : Type} {surroundings : Surroundings World}

/-- A look at the channel keeps the statement, and so does everything that can happen
between two looks. -/
structure Keeps (surroundings : Surroundings World)
    (holds : List StreamedSample → World → Prop) : Prop where
  poll : ∀ {handed : List StreamedSample} {world : World}, holds handed world →
    holds (handed ++ (surroundings.poll world).1.samples) (surroundings.poll world).2
  idle : ∀ {handed : List StreamedSample} {world : World} {budget : Nat}
    {elapsed : Elapsed budget World}, surroundings.idle budget world = some elapsed →
    holds handed world → holds handed elapsed.world
  lapse : ∀ {handed : List StreamedSample} {world : World} {budget : Nat}
    (positive : 0 < budget), holds handed world →
    holds handed (surroundings.lapse budget positive world).world

theorem Keeps.receiveWithin {holds : List StreamedSample → World → Prop}
    (keeps : surroundings.Keeps holds) (budget : Nat) {handed : List StreamedSample}
    {world : World} (held : holds handed world) :
    holds (handed ++ (surroundings.receiveWithin budget world).arrival.samples)
      (surroundings.receiveWithin budget world).world := by
  fun_induction Surroundings.receiveWithin with
  | case1 budget world rest looked stuck =>
      rw [Channel.Arrival.samples, List.append_nil]
      exact held
  | case2 budget world rest looked elapsed happens ih =>
      exact ih (keeps.idle happens held)
  | case3 budget world arrival rest something looked =>
      have polled := keeps.poll held
      rw [looked] at polled
      exact polled

theorem Keeps.collect {holds : List StreamedSample → World → Prop}
    (keeps : surroundings.Keeps holds) (window : Nat) {handed : List StreamedSample}
    {world : World} (held : holds handed world) :
    holds (handed ++ (surroundings.collect window world).seen)
      (surroundings.collect window world).world := by
  fun_induction Surroundings.collect generalizing handed with
  | case1 world | case3 window world ongoing rest looked
    | case4 window world ongoing rest looked stuck =>
      rw [List.append_nil]
      exact held
  | case2 window world ongoing sample rest looked elapsed later =>
      rename_i ih
      have polled := keeps.poll held
      rw [looked] at polled
      have after := ih (keeps.lapse (Nat.pos_of_ne_zero ongoing) polled)
      rw [Channel.Arrival.samples, List.append_assoc] at after
      exact after
  | case5 window world ongoing rest looked elapsed happens ih =>
      exact ih (keeps.idle happens held)

/-- A consumer that got no sample leaves the world in a state in which it would find
the same again. -/
theorem receive_receiveWithin
    (returns : ∀ world, surroundings.withSink (surroundings.sink world) world = world)
    (budget : Nat) (world : World)
    (bare : (surroundings.receiveWithin budget world).arrival.samples = []) :
    (surroundings.sink (surroundings.receiveWithin budget world).world).receive.1 =
      (surroundings.receiveWithin budget world).arrival := by
  fun_induction Surroundings.receiveWithin with
  | case1 budget world rest looked stuck =>
      exact congrArg Prod.fst looked
  | case2 budget world rest looked elapsed happens ih =>
      exact ih bare
  | case3 budget world arrival rest something looked =>
      have found : (surroundings.sink world).receive.1 = arrival := congrArg Prod.fst looked
      have same : (surroundings.sink world).receive.2 = surroundings.sink world :=
        Channel.receive_of_bare (found ▸ bare)
      have reached : surroundings.withSink (surroundings.sink world).receive.2 world = rest :=
        congrArg Prod.snd looked
      rw [same, returns] at reached
      rw [← reached]
      exact found

end Surroundings

/-! ## At the dispatcher's channel -/

variable {Source : Type}

/-- What the dispatcher has counted does not depend on what is pending. -/
theorem Counted.withPending {origin : Tracker} {placed : List StreamedSample}
    {pipeline : Pipeline (Journal Source)} (counted : Counted origin placed pipeline)
    (pending : List StreamedSample) :
    Counted origin placed (pipeline.updateDispatcher fun dispatcher =>
      { dispatcher with sink := { pipeline.dispatcher.sink with pending := pending } }) := by
  rcases counted with ⟨recorded, systemEvents, received, balance, forwarded, detached⟩
  exact ⟨recorded, systemEvents, received, balance, forwarded, detached⟩

theorem Intact.withPending {every : UInt64} {placed : List StreamedSample}
    {pipeline : Pipeline (Journal Source)} (intact : Intact every placed pipeline)
    (pending : List StreamedSample) :
    Intact every placed (pipeline.updateDispatcher fun dispatcher =>
      { dispatcher with sink := { pipeline.dispatcher.sink with pending := pending } }) := by
  rcases intact with ⟨unrequested, received, attached, undropped, sender, passed⟩
  exact ⟨unrequested, received, attached, undropped, sender, passed⟩

variable [EventSource Source]

/-- What the dispatcher does by itself keeps the statement, and so does a look at its
channel. -/
structure Upheld (holds : List StreamedSample → Pipeline (Journal Source) → Prop) : Prop where
  lasting : ∀ handed : List StreamedSample, Lasting (holds handed)
  receive : ∀ {handed : List StreamedSample} {pipeline : Pipeline (Journal Source)},
    holds handed pipeline →
      holds (handed ++ pipeline.dispatcher.sink.receive.1.samples)
        (pipeline.updateDispatcher fun dispatcher =>
          { dispatcher with sink := pipeline.dispatcher.sink.receive.2 })

/-- The world around a consumer keeps it. -/
theorem Upheld.keeps {holds : List StreamedSample → Pipeline (Journal Source) → Prop}
    (upheld : Upheld holds) (schedule : Schedule (Journal Source)) :
    (Scene.surroundings schedule).Keeps fun handed scene => holds handed scene.pipeline where
  poll := fun held => upheld.receive held
  idle := fun happens held => (upheld.lasting _).moves (Scene.moves_idle happens) held
  lapse := fun positive held =>
    (upheld.lasting _).moves (Scene.moves_lapse schedule _ positive _) held

/-- The dispatcher has lost nothing and counted everything, and what its consumer was
handed, followed by what is pending, is all that it put into the channel.  The tracker was
in the state `origin` at first. -/
structure Serving (origin : Tracker) (every : UInt64) (handed : List StreamedSample)
    (pipeline : Pipeline (Journal Source)) : Prop where
  intact : Intact every (handed ++ pipeline.dispatcher.sink.pending) pipeline
  counted : Counted origin (handed ++ pipeline.dispatcher.sink.pending) pipeline

omit [EventSource Source] in
theorem serving_spawn (origin : Tracker) (every : UInt64) (capacity : Option Nat)
    (source : Source) :
    Serving origin every [] ⟨.start source, origin, .spawn every (.withCapacity capacity)⟩ :=
  ⟨.spawn every capacity source origin, .spawn every (.withCapacity capacity) source origin⟩

theorem serving_lasting (origin : Tracker) (every : UInt64) (handed : List StreamedSample) :
    Lasting fun pipeline : Pipeline (Journal Source) =>
      Serving origin every handed pipeline where
  step := by
    rintro pipeline ⟨intact, counted⟩
    constructor
    · rw [pending_step, ← List.append_assoc]
      exact intact.step
    · rw [pending_step, ← List.append_assoc]
      exact counted.step
  source := fun same serving => ⟨serving.intact.withSource same, serving.counted.withSource same⟩

/-- What the consumer finds goes from the channel to what it was handed. -/
theorem serving_upheld (origin : Tracker) (every : UInt64) :
    Upheld fun handed (pipeline : Pipeline (Journal Source)) =>
      Serving origin every handed pipeline where
  lasting := serving_lasting origin every
  receive := by
    rintro handed pipeline ⟨intact, counted⟩
    rcases pipeline.dispatcher.sink.receive_eq with ⟨rest, pending, left⟩
    rw [pending, ← List.append_assoc] at intact counted
    rw [left]
    exact ⟨intact.withPending rest, counted.withPending rest⟩

namespace Serving

variable {origin : Tracker} {every : UInt64} {handed : List StreamedSample}
  {pipeline : Pipeline (Journal Source)}

omit [EventSource Source] in
/-- What the consumer was handed is the beginning of what should pass down-sampling. -/
theorem handed_begins (serving : Serving origin every handed pipeline) :
    handed <+: (DownSampler.fresh every).passed (measurementsIn pipeline.source.taken) := by
  rcases serving.intact.passed with ⟨admitted, split, _, passed⟩
  have placed : handed <+: (DownSampler.fresh every).passed admitted := by
    rw [passed, List.append_assoc]
    exact List.prefix_append _ _
  rw [split]
  exact placed.trans (DownSampler.passed_mono _ (List.prefix_append _ _))

omit [EventSource Source] in
/-- The consumer finds the stream stopped when the dispatcher is at its end and all
that passed down-sampling was handed out. -/
theorem stopped_iff (serving : Serving origin every handed pipeline) :
    pipeline.dispatcher.sink.receive.1 = .stopped ↔
      pipeline.dispatcher.isRunning = false ∧
        handed = (DownSampler.fresh every).passed (measurementsIn pipeline.source.taken) := by
  rcases serving.intact.passed with ⟨admitted, split, _, passed⟩
  rw [Channel.receive_eq_stopped_iff, serving.intact.sender]
  refine and_congr_right fun halted => ?_
  -- At its end the dispatcher holds neither a measurement nor a sample back.
  rcases Dispatcher.phase_of_not_running halted with ⟨exit, phase⟩
  simp only [phase, Phase.unadmitted, List.append_nil] at split
  simp only [phase, Phase.undelivered, List.append_nil] at passed
  rw [split, passed, List.self_eq_append_right]

/-- A consumer that waits finds the stream stopped when the dispatcher is at its end
afterwards and all that passed down-sampling was handed out before. -/
theorem receiveWithin_stopped_iff (schedule : Schedule (Journal Source)) (budget : Nat)
    {scene : Scene (Journal Source)} (serving : Serving origin every handed scene.pipeline) :
    ((Scene.surroundings schedule).receiveWithin budget scene).arrival = .stopped ↔
      ((Scene.surroundings schedule).receiveWithin budget
          scene).world.pipeline.dispatcher.isRunning = false ∧
        handed = (DownSampler.fresh every).passed
          (measurementsIn ((Scene.surroundings schedule).receiveWithin budget
            scene).world.pipeline.source.taken) := by
  have afterwards := ((serving_upheld origin every).keeps schedule).receiveWithin budget serving
  have settled := (Scene.surroundings schedule).receive_receiveWithin (fun _ => rfl) budget scene
  generalize (Scene.surroundings schedule).receiveWithin budget scene = reception
    at afterwards settled ⊢
  constructor
  · intro stopped
    rw [stopped] at afterwards settled
    rw [Channel.Arrival.samples, List.append_nil] at afterwards
    exact afterwards.stopped_iff.1 (settled rfl)
  · rintro ⟨halted, whole⟩
    -- Nothing passed that was not handed out before, so no sample arrived.
    have bare : reception.arrival.samples = [] := by
      have within := afterwards.handed_begins
      rw [← whole] at within
      exact List.append_right_eq_self.1 (within.eq_of_length_le (by simp))
    rw [bare, List.append_nil] at afterwards
    rw [← settled bare]
    exact afterwards.stopped_iff.2 ⟨halted, whole⟩

end Serving

end SensorStream
