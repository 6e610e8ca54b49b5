import Mathlib.Data.List.Induction
import SensorStream.Proofs.Conservation
import SensorStream.Proofs.Findings
import SensorStream.Proofs.Passage

/-!
# Discovery under back-pressure

One dispatcher serves both discovery and the sample stream, and nobody receives samples
before a sensor is connected.  When the channel is full, the dispatcher holds the next sample
that passes down-sampling and takes no further event.  `DownSampler.reach` says how far it
gets, and discovery knows of the events no more than that.
-/

namespace SensorStream

/-! ## How far a dispatcher gets -/

namespace DownSampler

/-- The events that are taken while nobody receives, if there is room for so many samples:
all of them, or those up to the first sample that finds no room. -/
def reach : DownSampler → Nat → List Event → List Event
  | _, _, [] => []
  | downSampler, room, event :: later =>
      event :: match event.measurement? with
        | none => reach downSampler room later
        | some measurement =>
            let counted := downSampler.after [measurement]
            match downSampler.pass measurement, room with
            | none, room => reach counted room later
            | some _, 0 => []
            | some _, room + 1 => reach counted room later

/-- Events whose samples all find room are taken before any others. -/
theorem reach_append {downSampler : DownSampler} {room : Nat} {before : List Event}
    (fits : (downSampler.passed (measurementsIn before)).length ≤ room) (after : List Event) :
    downSampler.reach room (before ++ after) =
      before ++ (downSampler.after (measurementsIn before)).reach
        (room - (downSampler.passed (measurementsIn before)).length) after := by
  induction before generalizing downSampler room with
  | nil => rfl
  | cons event later ih =>
      cases carried : event.measurement? with
      | none =>
          have same : measurementsIn (event :: later) = measurementsIn later :=
            List.filterMap_cons_none carried
          rw [same] at fits ⊢
          simp only [List.cons_append, reach, carried]
          rw [ih fits]
      | some measurement =>
          have more : measurementsIn (event :: later) = [measurement] ++ measurementsIn later :=
            List.filterMap_cons_some carried
          rw [more, passed_append, passed_singleton] at fits ⊢
          rw [after_append]
          simp only [List.cons_append, reach, carried]
          cases passes : downSampler.pass measurement with
          | none =>
              simp only [passes, Option.toList_none, List.nil_append] at fits ⊢
              rw [ih fits]
          | some streamed =>
              simp only [passes, Option.toList_some, List.singleton_append, List.length_cons]
                at fits ⊢
              cases room with
              | zero => exact absurd fits (Nat.not_succ_le_zero _)
              | succ room =>
                  simp only
                  rw [ih (Nat.le_of_succ_le_succ fits), Nat.succ_sub_succ]

/-- The first sample that finds no room is the last event. -/
theorem reach_of_excess {downSampler : DownSampler} {room : Nat} {before : List Event}
    {event : Event} (fits : (downSampler.passed (measurementsIn before)).length ≤ room)
    (excess : room < (downSampler.passed (measurementsIn (before ++ [event]))).length)
    (after : List Event) :
    downSampler.reach room (before ++ event :: after) = before ++ [event] := by
  rw [reach_append fits]
  rw [measurementsIn_append, measurementsIn_singleton, passed_append, List.length_append] at excess
  cases carried : event.measurement? with
  | none =>
      simp only [carried, Option.toList_none, passed_nil, List.length_nil] at excess
      omega
  | some measurement =>
      simp only [carried, Option.toList_some, passed_singleton] at excess
      cases passes : (downSampler.after (measurementsIn before)).pass measurement with
      | none =>
          simp only [passes, Option.toList_none, List.length_nil] at excess
          omega
      | some streamed =>
          have full : room - (downSampler.passed (measurementsIn before)).length = 0 := by
            simp only [passes, Option.toList_some, List.length_singleton] at excess
            omega
          simp only [reach, carried, passes, full]

/-- Without a sample that finds no room all events are taken. -/
theorem reach_of_fits {downSampler : DownSampler} {room : Nat} {events : List Event}
    (fits : (downSampler.passed (measurementsIn events)).length ≤ room) :
    downSampler.reach room events = events := by
  have whole := reach_append fits []
  rw [List.append_nil] at whole
  exact whole.trans (List.append_nil events)

/-- Some events fit, or there is a first sample among them that finds no room. -/
theorem exists_excess (downSampler : DownSampler) (room : Nat) (events : List Event) :
    (downSampler.passed (measurementsIn events)).length ≤ room ∨
      ∃ (before : List Event) (event : Event) (after : List Event),
        events = before ++ event :: after ∧
          (downSampler.passed (measurementsIn before)).length ≤ room ∧
          room < (downSampler.passed (measurementsIn (before ++ [event]))).length := by
  induction events using List.reverseRecOn with
  | nil => exact .inl (Nat.zero_le room)
  | append_singleton earlier last ih =>
      rcases ih with fits | ⟨before, event, after, rfl, fits, excess⟩
      · rcases Nat.lt_or_ge room
            (downSampler.passed (measurementsIn (earlier ++ [last]))).length with excess | whole
        · exact .inr ⟨earlier, last, [], rfl, fits, excess⟩
        · exact .inl whole
      · refine .inr ⟨before, event, after ++ [last], ?_, fits, excess⟩
        rw [List.append_assoc, List.cons_append]

end DownSampler

/-! ## What discovery sees -/

/-- Not more samples pass than there is room for before an event that completes discovery. -/
def Prompt (every : UInt64) (room : Nat) (events : List Event) : Prop :=
  ∃ (before : List Event) (event : Event) (after : List Event) (notice : Notice),
    events = before ++ event :: after ∧ event.notice? = some notice ∧ notice.Completes ∧
      ((DownSampler.fresh every).passed (measurementsIn before)).length ≤ room

/-- Not more samples pass than there is room for before any discovery event, as long as none
has completed discovery. -/
def Timely (every : UInt64) (room : Nat) (events : List Event) : Prop :=
  ∀ (before : List Event) (event : Event) (after : List Event) (notice : Notice),
    events = before ++ event :: after → event.notice? = some notice →
      (∀ earlier ∈ noticesIn before, ¬earlier.Completes) →
      ((DownSampler.fresh every).passed (measurementsIn before)).length ≤ room

theorem exists_completing_iff (every : UInt64) (room : Nat) (events : List Event) :
    (∃ notice ∈ noticesIn ((DownSampler.fresh every).reach room events), notice.Completes) ↔
      Prompt every room events := by
  constructor
  · rintro ⟨notice, member, completes⟩
    rcases List.mem_filterMap.1 member with ⟨event, taken, carried⟩
    rcases List.append_of_mem taken with ⟨earlier, later, reached⟩
    rcases (DownSampler.fresh every).exists_excess room events with
      fits | ⟨before, last, after, rfl, fits, excess⟩
    · rw [DownSampler.reach_of_fits fits] at reached
      subst reached
      refine ⟨earlier, event, later, notice, rfl, carried, completes, ?_⟩
      rw [measurementsIn_append, DownSampler.passed_append, List.length_append] at fits
      exact Nat.le_trans (Nat.le_add_right _ _) fits
    · rw [DownSampler.reach_of_excess fits excess] at reached
      -- What comes before a taken event comes before the last one.
      have within : earlier <+: before := by
        have shorter : earlier.length ≤ before.length := by
          have lengths := congrArg List.length reached
          simp only [List.length_append, List.length_cons, List.length_nil] at lengths
          omega
        refine List.prefix_of_prefix_length_le (List.prefix_append earlier (event :: later)) ?_
          shorter
        rw [← reached]
        exact List.prefix_append _ _
      have few := (DownSampler.passed_mono (.fresh every)
        (List.IsPrefix.filterMap Event.measurement? within)).length_le
      refine ⟨earlier, event, later ++ after, notice, ?_, carried, completes,
        Nat.le_trans few fits⟩
      rw [List.append_cons, reached, List.append_assoc, List.cons_append]
  · rintro ⟨before, event, after, notice, rfl, carried, completes, fits⟩
    refine ⟨notice, List.mem_filterMap.2 ⟨event, ?_, carried⟩, completes⟩
    rw [DownSampler.reach_append fits, DownSampler.reach]
    simp

/-- Where all samples find room nothing is late. -/
theorem timely_of_fits {every : UInt64} {room : Nat} {events : List Event}
    (fits : ((DownSampler.fresh every).passed (measurementsIn events)).length ≤ room) :
    Timely every room events := by
  rintro before event after notice rfl _ _
  rw [measurementsIn_append, DownSampler.passed_append, List.length_append] at fits
  exact Nat.le_trans (Nat.le_add_right _ _) fits

/-- Where nothing is late, discovery sees as much as if there were no samples. -/
theorem Timely.foldl_record {every : UInt64} {room : Nat} {events : List Event}
    (timely : Timely every room events) :
    (noticesIn ((DownSampler.fresh every).reach room events)).foldl Tracker.record .fresh =
      (noticesIn events).foldl Tracker.record .fresh := by
  rcases (DownSampler.fresh every).exists_excess room events with
    fits | ⟨before, last, after, rfl, fits, excess⟩
  · rw [DownSampler.reach_of_fits fits]
  · rw [DownSampler.reach_of_excess fits excess, List.append_cons before last after,
      noticesIn_append _ after, List.foldl_append]
    cases complete : ((noticesIn (before ++ [last])).foldl Tracker.record .fresh).complete with
    | true => rw [Tracker.foldl_record_of_complete complete]
    | false =>
        -- The next discovery event would come after too many samples.
        suffices none : noticesIn after = [] by rw [none]; rfl
        cases next : noticesIn after with
        | nil => rfl
        | cons notice others =>
            rcases List.filterMap_eq_cons_iff.1 next with
              ⟨between, event, rest, rfl, silent, carried, _⟩
            have split : before ++ last :: (between ++ event :: rest) =
                (before ++ [last] ++ between) ++ event :: rest := by
              simp only [List.append_assoc, List.cons_append, List.nil_append]
            have quiet : noticesIn between = [] := List.filterMap_eq_nil_iff.2 silent
            have few := timely _ event rest notice split carried (by
              rw [noticesIn_append, quiet, List.append_nil]
              intro earlier member completes
              have completed := (Tracker.complete_foldl_record .fresh _).2
                (.inr ⟨earlier, member, completes⟩)
              cases complete.symm.trans completed)
            rw [measurementsIn_append, DownSampler.passed_append, List.length_append] at few
            omega

/-! ## A dispatcher whose samples nobody receives -/

section Unserved

variable {Source : Type}

/-- Nobody has received anything from the dispatcher's channel, which has room for so many
samples. -/
structure Unserved (every : UInt64) (room : Nat) (pipeline : Pipeline (Journal Source)) :
    Prop where
  serving : Serving .fresh every [] pipeline
  capacity : pipeline.dispatcher.sink.capacity = some room
  pending : pipeline.dispatcher.sink.pending.length ≤ room
  /-- The samples of all events but the last one have found room. -/
  settled : ((DownSampler.fresh every).passed
    (measurementsIn pipeline.source.taken.dropLast)).length ≤ room

theorem Unserved.spawn (every : UInt64) (room : Nat) (source : Source) :
    Unserved every room ⟨.start source, .fresh, .spawn every (.withCapacity (some room))⟩ where
  serving := serving_spawn .fresh every (some room) source
  capacity := rfl
  pending := Nat.zero_le room
  settled := Nat.zero_le room

/-- What a dispatcher holds back does not fit into its channel. -/
theorem Dispatcher.of_held {dispatcher : Dispatcher} {sample : StreamedSample}
    (holds : dispatcher.held? = some sample) :
    (dispatcher.phase = .delivering sample ∨ dispatcher.phase = .stalled sample) ∧
      dispatcher.sink.receiverAlive = true ∧ dispatcher.sink.isFull = true := by
  rw [held?] at holds
  split at holds
  case h_1 phase | h_2 phase =>
    split at holds
    · cases holds
      simp_all
    · cases holds
  case h_3 => cases holds

/-- At rest the dispatcher has got as far as there is room. -/
theorem Unserved.taken_eq_reach {every : UInt64} {room : Nat}
    {pipeline : Pipeline (Journal Source)} (unserved : Unserved every room pipeline)
    (resting : pipeline.dispatcher.Resting) {events : List Event}
    (available : pipeline.source.taken <+: events)
    (consumed : pipeline.dispatcher.held? = none → pipeline.source.taken = events) :
    pipeline.source.taken = (DownSampler.fresh every).reach room events := by
  rcases unserved with ⟨⟨intact, _⟩, capacity, pending, settled⟩
  rcases resting.held_only with ⟨unadmitted, undelivered⟩
  rcases intact.passed with ⟨admitted, split, _, passed⟩
  rw [unadmitted, List.append_nil] at split
  rw [← split, undelivered, List.nil_append] at passed
  cases holds : pipeline.dispatcher.held? with
  | none =>
      rw [holds, Option.toList_none, List.append_nil] at passed
      rw [← consumed holds]
      refine (DownSampler.reach_of_fits ?_).symm
      rw [passed]
      exact pending
  | some sample =>
      rw [holds, Option.toList_some] at passed
      have full := (Dispatcher.of_held holds).2.2
      rw [Channel.isFull, capacity] at full
      have excess : room <
          ((DownSampler.fresh every).passed (measurementsIn pipeline.source.taken)).length := by
        rw [passed, List.length_append]
        exact Nat.lt_succ_of_le (of_decide_eq_true full)
      rcases List.eq_nil_or_concat pipeline.source.taken with nothing | ⟨before, last, taken⟩
      · rw [nothing] at excess
        exact absurd excess (Nat.not_lt_zero _)
      · rcases available with ⟨after, rfl⟩
        rw [taken, List.concat_eq_append, List.dropLast_concat] at settled
        rw [taken, List.concat_eq_append] at excess ⊢
        rw [List.append_assoc, List.singleton_append]
        exact (DownSampler.reach_of_excess settled excess after).symm

variable [EventSource Source]

theorem Pipeline.capacity_step (pipeline : Pipeline Source) :
    pipeline.step.dispatcher.sink.capacity = pipeline.dispatcher.sink.capacity := by
  have advance := pipeline.advance_step
  generalize pipeline.step = later at advance ⊢
  cases advance with
  | wait =>
      unfold Dispatcher.resume
      split <;> rfl
  | _ => rfl

/-- A bounded channel never holds more than it has room for. -/
theorem Pipeline.pending_step_le {pipeline : Pipeline Source} {room : Nat}
    (capacity : pipeline.dispatcher.sink.capacity = some room)
    (pending : pipeline.dispatcher.sink.pending.length ≤ room) :
    pipeline.step.dispatcher.sink.pending.length ≤ room := by
  rw [pending_step, List.length_append, Dispatcher.placement]
  split
  · split
    · rename_i room_left
      simp only [Channel.isFull, capacity, Bool.and_eq_true, Bool.not_eq_true',
        decide_eq_false_iff_not] at room_left
      rw [List.length_singleton]
      omega
    · exact pending
  · exact pending

/-- Before the next event is taken all samples have found room. -/
theorem Unserved.settled_step {every : UInt64} {room : Nat}
    {pipeline : Pipeline (Journal Source)} (unserved : Unserved every room pipeline) :
    ((DownSampler.fresh every).passed
      (measurementsIn pipeline.step.source.taken.dropLast)).length ≤ room := by
  have advance := pipeline.advance_step
  generalize pipeline.step = later at advance ⊢
  cases advance with
  | wait phase =>
      rcases unserved.serving.intact.passed with ⟨admitted, split, _, passed⟩
      simp only [phase, Phase.unadmitted, Phase.undelivered, List.append_nil, List.nil_append]
        at split passed
      rw [Journal.taken_wait]
      cases (EventSource.wait pipeline.source).1.event? with
      | none =>
          rw [Option.toList_none, List.append_nil]
          exact unserved.settled
      | some event =>
          rw [Option.toList_some, List.dropLast_concat, split, passed]
          exact unserved.pending
  | _ => exact unserved.settled

theorem Lasting.unserved (every : UInt64) (room : Nat) :
    Lasting fun pipeline : Pipeline (Journal Source) => Unserved every room pipeline where
  step := by
    intro pipeline unserved
    constructor
    · exact (serving_lasting .fresh every []).step unserved.serving
    · exact pipeline.capacity_step.trans unserved.capacity
    · exact Pipeline.pending_step_le unserved.capacity unserved.pending
    · exact unserved.settled_step
  source := by
    rintro pipeline source same ⟨serving, capacity, pending, settled⟩
    rw [← same] at settled
    exact ⟨(serving_lasting .fresh every []).source same serving, capacity, pending, settled⟩

/-- A dispatcher that holds a sample back goes on doing so, and discovery stands still. -/
theorem Lasting.held (sample : StreamedSample) (tracker : Tracker) :
    Lasting fun pipeline : Pipeline (Journal Source) =>
      pipeline.dispatcher.held? = some sample ∧ pipeline.dispatcher.stopRequested = false ∧
        pipeline.tracker = tracker where
  step := by
    rintro pipeline ⟨holds, unrequested, same⟩
    rcases Dispatcher.of_held holds with ⟨phase | phase, received, full⟩
    · simp [Pipeline.step, Dispatcher.step, Dispatcher.deliver, Channel.send, Dispatcher.held?,
        phase, received, full, unrequested, same]
    · simp [Pipeline.step, Dispatcher.step, Dispatcher.held?, phase, received, full, unrequested,
        same]
  source := fun _ before => before

/-- A complete discovery stays as it is. -/
theorem Lasting.complete {tracker : Tracker} (complete : tracker.complete = true) :
    Lasting fun pipeline : Pipeline (Journal Source) => pipeline.tracker = tracker where
  step := by
    rintro pipeline same
    have advance := pipeline.advance_step
    generalize pipeline.step = later at advance ⊢
    cases advance with
    | record =>
        simp only [same]
        exact Tracker.record_of_complete complete _
    | _ => exact same
  source := fun _ before => before

end Unserved

/-! ## Waiting for discovery -/

section Waiting

variable {Source : Type} [EventSource Source] {schedule : Schedule (Journal Source)}

/-- The wait is over at the first look at a complete discovery. -/
theorem Scene.watchDiscovery_of_known {scene : Scene (Journal Source)}
    (complete : scene.pipeline.tracker.complete = true) (poll : Nat) (poll_pos : 0 < poll)
    (remaining : Nat) :
    (scene.watchDiscovery schedule poll poll_pos remaining).1 =
      .complete scene.pipeline.tracker.found := by
  have known := (Lasting.complete complete).moves (scene.moves_between schedule) rfl
  have shown : (scene.between schedule).pipeline.tracker.sensors? =
      some scene.pipeline.tracker.found := by
    rw [known, Tracker.sensors?, if_pos complete]
  rw [watchDiscovery]
  simp only [shown]

/-- The wait ends in vain where discovery stays incomplete and the dispatcher at work. -/
theorem Scene.watchDiscovery_of_lasting {holds : Pipeline (Journal Source) → Prop}
    (lasting : Lasting holds)
    (hidden : ∀ pipeline, holds pipeline → pipeline.tracker.sensors? = none)
    (running : ∀ pipeline, holds pipeline → pipeline.dispatcher.isRunning = true)
    {scene : Scene (Journal Source)} (held : holds scene.pipeline) (poll : Nat)
    (poll_pos : 0 < poll) (remaining : Nat) :
    (scene.watchDiscovery schedule poll poll_pos remaining).1 = .timedOut := by
  fun_induction watchDiscovery with
  | case1 remaining scene look found complete =>
      have looked := lasting.moves (scene.moves_between schedule) held
      cases (hidden _ looked).symm.trans complete
  | case2 remaining scene look incomplete again ended =>
      have looked := lasting.moves (scene.moves_between schedule) held
      have lookedAgain := lasting.moves (look.moves_between schedule) looked
      rw [running _ lookedAgain] at ended
      cases ended
  | case3 => rfl
  | case4 remaining scene look incomplete again goesOn left nap ih =>
      have looked := lasting.moves (scene.moves_between schedule) held
      have lookedAgain := lasting.moves (look.moves_between schedule) looked
      exact ih (lasting.moves (again.moves_sleep schedule nap) lookedAgain)

variable {client : Client (Journal Source)} {scene : Scene (Journal Source)}
  (working : client.scene? = some scene) (discovering : client.state = .discovering)
  (fits : deadlineFits (schedule.clock client.tick) client.config.discoveryTimeout = true)

include working discovering fits

/-- What a client is told is decided by what its wait has found. -/
theorem Client.awaitDiscovery_eq :
    (client.awaitDiscovery schedule).1 =
      match (scene.watchDiscovery schedule client.config.discoveryPoll.nanoseconds
          client.config_sane.poll client.config.discoveryTimeout.nanoseconds).1 with
      | .complete sensors =>
          if sensors.isEmpty then .error (.error .noSensorFound) else .ok sensors
      | .dispatcherEnded => .error (.error dispatcherEndedError)
      | .timedOut => .error (.error .discoveryTimeout) := by
  rw [awaitDiscovery, if_neg (not_not_intro discovering), fits, working]
  simp only [Bool.not_true, Bool.false_eq_true, if_false]
  generalize scene.watchDiscovery schedule _ client.config_sane.poll _ = watched
  rcases watched with ⟨outcome, later⟩
  cases outcome with
  | complete sensors =>
      simp only [concludeDiscovery]
      split <;> rfl
  | dispatcherEnded => rfl
  | timedOut => rfl

theorem Client.awaitDiscovery_of_known (complete : client.tracker.complete = true) :
    (client.awaitDiscovery schedule).1 =
      if client.tracker.found.isEmpty then .error (.error .noSensorFound)
      else .ok client.tracker.found := by
  rw [awaitDiscovery_eq working discovering fits]
  rcases Option.map_eq_some_iff.1 working with ⟨dispatcher, employed, rfl⟩
  rw [Scene.watchDiscovery_of_known complete]

/-- A client waits in vain whose dispatcher holds a sample back. -/
theorem Client.awaitDiscovery_of_held {sample : StreamedSample}
    (holds : scene.pipeline.dispatcher.held? = some sample)
    (unrequested : scene.pipeline.dispatcher.stopRequested = false)
    (incomplete : client.tracker.complete = false) :
    (client.awaitDiscovery schedule).1 = .error (.error .discoveryTimeout) := by
  rw [awaitDiscovery_eq working discovering fits]
  rcases Option.map_eq_some_iff.1 working with ⟨dispatcher, employed, rfl⟩
  have lasting := @Lasting.held Source _ sample client.tracker
  rw [Scene.watchDiscovery_of_lasting lasting ?_ ?_ ⟨holds, unrequested, rfl⟩]
  · rintro pipeline ⟨_, _, same⟩
    rw [same, Tracker.sensors?, incomplete]
    rfl
  · rintro pipeline ⟨stillHolds, _, _⟩
    rcases (Dispatcher.of_held stillHolds).1 with phase | phase
    · rw [Dispatcher.isRunning, Dispatcher.exit?, phase]
      rfl
    · rw [Dispatcher.isRunning, Dispatcher.exit?, phase]
      rfl

end Waiting

/-! ## Clients that have found nothing yet -/

namespace Session

variable {Source : Type} [EventSource Source] {schedule : Schedule (Journal Source)}
  {config : Config} {source : Source} {session : Session Source}

/-- Until discovery is concluded, a client does nothing but wait beside its dispatcher. -/
theorem Reachable.lasting {holds : Pipeline (Journal Source) → Prop} (lasting : Lasting holds)
    (fresh : holds ⟨.start source, .fresh, .spawn config.downsampleEvery
      (.withCapacity (some config.sanitized.sampleBuffer))⟩)
    (reachable : Reachable schedule config source session)
    (early : session.client.state = .idle ∨ session.client.state = .discovering) :
    ∃ scene : Scene (Journal Source), session.client.scene? = some scene ∧
      holds scene.pipeline := by
  induction reachable with
  | start => exact Client.working_start lasting schedule rfl rfl fresh
  | @between session _ ih =>
      rw [Session.between, (session.client.kept_between schedule).state] at early
      rcases ih early with ⟨scene, working, held⟩
      refine ⟨scene.between schedule, ?_, lasting.moves (scene.moves_between schedule) held⟩
      rw [Session.between, Client.between, working]
      rfl
  | @serve session _ request ih =>
      have passage := session.client.passage_meet schedule request.call
      rw [← session.client.serve_eq_meet schedule] at passage
      have before : session.client.state = .idle ∨ session.client.state = .discovering := by
        rcases passage.kept_of_early early with kept | ⟨starts, _⟩
        · rw [← kept.state]
          exact early
        · cases request <;> cases starts
      rcases ih before with ⟨scene, working, held⟩
      cases request with
      | awaitDiscovery =>
          rcases Client.working_awaitDiscovery schedule working with ⟨later, still, moves⟩
          exact ⟨later, still, lasting.moves moves held⟩
      | shutdown =>
          have ongoing : session.client.state ≠ .terminated := by
            rcases before with state | state <;> simp [state]
          have ended := (Client.working_shutdown schedule working ongoing).2.1
          rw [Session.serve, Client.serve, ended] at early
          rcases early with state | state <;> cases state
      | connect | stream | nextSample =>
          rw [Session.serve, session.client.serve_of_unfit schedule]
          · exact ⟨scene, working, held⟩
          · rcases before with state | state <;> simp [Client.Accepts, Request.call, state]

/-- A client's dispatcher has come to rest while these events were available: it has taken
them all, or it holds a sample back. -/
structure Rests (session : Session Source) (dispatcher : Dispatcher) (events : List Event) :
    Prop where
  employed : session.client.worker = some dispatcher
  resting : dispatcher.Resting
  available : session.client.source.taken <+: events
  consumed : dispatcher.held? = none → session.client.source.taken = events

/-- What a client knows that waits for discovery, when its dispatcher has come to rest while
these events were available. -/
structure Knowledge (schedule : Schedule (Journal Source)) (config : Config)
    (session : Session Source) (dispatcher : Dispatcher) (events : List Event) : Prop where
  taken : session.client.source.taken =
    (DownSampler.fresh config.downsampleEvery).reach config.sanitized.sampleBuffer events
  tracker : session.client.tracker =
    (noticesIn session.client.source.taken).foldl Tracker.record .fresh
  /-- Unless a discovery event is late, it is what the discovery events alone would tell. -/
  timely : Timely config.downsampleEvery config.sanitized.sampleBuffer events →
    session.client.tracker = (noticesIn events).foldl Tracker.record .fresh
  complete : session.client.tracker.complete = true ↔
    Prompt config.downsampleEvery config.sanitized.sampleBuffer events
  /-- If it is complete, a client that waits for it is told so. -/
  concludes : Prompt config.downsampleEvery config.sanitized.sampleBuffer events →
    deadlineFits (schedule.clock session.client.tick)
      session.client.config.discoveryTimeout = true →
    (session.client.awaitDiscovery schedule).1 =
      if session.client.tracker.found.isEmpty then .error (.error .noSensorFound)
      else .ok session.client.tracker.found
  /-- If it is not, and the dispatcher holds a sample back, the wait is in vain. -/
  timesOut : ¬Prompt config.downsampleEvery config.sanitized.sampleBuffer events →
    dispatcher.held?.isSome = true →
    deadlineFits (schedule.clock session.client.tick)
      session.client.config.discoveryTimeout = true →
    (session.client.awaitDiscovery schedule).1 = .error (.error .discoveryTimeout)

theorem Reachable.knowledge (reachable : Reachable schedule config source session)
    (discovering : session.client.state = .discovering) {dispatcher : Dispatcher}
    {events : List Event} (rests : session.Rests dispatcher events) :
    session.Knowledge schedule config dispatcher events := by
  have fresh := Unserved.spawn config.downsampleEvery config.sanitized.sampleBuffer source
  rcases reachable.lasting (.unserved _ _) fresh (.inr discovering) with
    ⟨scene, working, unserved⟩
  rcases Option.map_eq_some_iff.1 working with ⟨same, present, rfl⟩
  cases present.symm.trans rests.employed
  have taken := unserved.taken_eq_reach rests.resting rests.available rests.consumed
  have tracker : session.client.tracker =
      (noticesIn session.client.source.taken).foldl Tracker.record .fresh := by
    rcases unserved.serving.counted.recorded with ⟨recorded, split, tracked⟩
    rw [rests.resting.settled.2.1, List.append_nil] at split
    simp only at split tracked
    rw [split, tracked]
  simp only at taken
  have complete : session.client.tracker.complete = true ↔
      Prompt config.downsampleEvery config.sanitized.sampleBuffer events := by
    rw [tracker, taken, Tracker.complete_foldl_record, ← exists_completing_iff]
    simp [Tracker.fresh]
  constructor
  · exact taken
  · exact tracker
  · intro timely
    rw [tracker, taken, timely.foldl_record]
  · exact complete
  · intro prompt fits
    exact Client.awaitDiscovery_of_known working discovering fits (complete.2 prompt)
  · intro late held fits
    rcases Option.isSome_iff_exists.1 held with ⟨sample, holds⟩
    have incomplete := Bool.not_eq_true _ ▸ mt complete.1 late
    exact Client.awaitDiscovery_of_held working discovering fits holds
      unserved.serving.intact.unrequested incomplete

/-- Room for one sample, no down-sampling, and little time. -/
def tight : Config :=
  { Config.default with
    downsampleEvery := 0
    sampleBuffer := 1
    discoveryPoll := ⟨1⟩
    discoveryTimeout := ⟨3⟩ }

/-- One sensor is reported, and then that listing is over. -/
def quiet : List Event :=
  [.found ⟨"LPMS", "a", .simulated, "sim"⟩, .progress 1]

/-- A sensor that is still open measures before. -/
def crowded : List Event :=
  [.measured ⟨1⟩ .zero, .measured ⟨1⟩ .zero, .measured ⟨1⟩ .zero] ++ quiet

/-- A client was started at a source that lists with these events, and its dispatcher has
come to rest. -/
def listening (events : List Event) : Session Script :=
  (start .patient tight (.ofResults [.ok (events.map .event)] [])).between .patient

theorem rests_listening_crowded :
    ∃ dispatcher : Dispatcher, (listening crowded).Rests dispatcher crowded ∧
      dispatcher.held?.isSome = true := by
  have holding : ((listening crowded).client.worker.bind Dispatcher.held?).isSome = true := by
    decide +kernel
  rcases Option.isSome_iff_exists.1 holding with ⟨sample, found⟩
  rcases Option.bind_eq_some_iff.1 found with ⟨dispatcher, employed, holds⟩
  refine ⟨dispatcher, ⟨employed, .held holds, ⟨crowded.drop 2, ?_⟩, ?_⟩, ?_⟩
  · with_unfolding_all rfl
  · intro none
    cases none.symm.trans holds
  · rw [holds]
    rfl

theorem rests_listening_of_idle {events : List Event}
    (idling : (listening events).client.worker.map Dispatcher.phase = some .checking)
    (taken : (listening events).client.source.taken = events) :
    ∃ dispatcher : Dispatcher, (listening events).Rests dispatcher events := by
  rcases Option.map_eq_some_iff.1 idling with ⟨dispatcher, employed, phase⟩
  have available : (listening events).client.source.taken <+: events :=
    ⟨[], (List.append_nil _).trans taken⟩
  exact ⟨dispatcher, employed, .checking phase, available, fun _ => taken⟩

/-- Samples that are queued before the end of listing keep discovery from being complete, and
a client waits for it in vain. -/
theorem discovery_depends_on_traffic :
    (¬∀ (schedule : Schedule (Journal Script)) (config : Config) (source other : Script)
      (first second : Session Script) (firstWorker secondWorker : Dispatcher)
      (firstEvents secondEvents : List Event),
      Reachable schedule config source first → Reachable schedule config other second →
      first.client.state = .discovering → second.client.state = .discovering →
      first.Rests firstWorker firstEvents → second.Rests secondWorker secondEvents →
      noticesIn firstEvents = noticesIn secondEvents →
      first.client.tracker.complete = second.client.tracker.complete) ∧
    ¬∀ (schedule : Schedule (Journal Script)) (config : Config) (source : Script)
      (session : Session Script) (dispatcher : Dispatcher) (events : List Event),
      Reachable schedule config source session → session.client.state = .discovering →
      session.Rests dispatcher events →
      (∃ notice ∈ noticesIn events, notice.Completes) →
      (session.client.awaitDiscovery schedule).1 ≠ .error (.error .discoveryTimeout) := by
  have reachable : ∀ events : List Event,
      Reachable .patient tight (.ofResults [.ok (events.map .event)] []) (listening events) :=
    fun _ => .between .start
  rcases rests_listening_crowded with ⟨busy, restsCrowded, _⟩
  rcases @rests_listening_of_idle quiet (by with_unfolding_all rfl)
    (by with_unfolding_all rfl) with ⟨free, restsQuiet⟩
  constructor
  · intro independent
    have same := independent .patient tight _ _ _ _ busy free crowded quiet (reachable crowded)
      (reachable quiet) (by decide +kernel) (by decide +kernel) restsCrowded restsQuiet rfl
    exact absurd same (by decide +kernel)
  · intro punctual
    have reported : Notice.progress 1 ∈ noticesIn crowded :=
      List.mem_filterMap.2 ⟨.progress 1, by simp [crowded, quiet], rfl⟩
    have completes : (Notice.progress 1).Completes := by
      rw [Notice.Completes]
      decide +kernel
    refine punctual .patient tight _ _ busy crowded (reachable crowded) (by decide +kernel)
      restsCrowded ⟨.progress 1, reported, completes⟩ ?_
    with_unfolding_all rfl

/-- A client that waits for discovery knows what its dispatcher has reached, and that depends
on the samples only through the room in the channel: where no discovery event is late, any two
clients with the same settings know the same, as far as the discovery events are the same. -/
theorem knowledge_of_rests (reachable : Reachable schedule config source session)
    (discovering : session.client.state = .discovering) {dispatcher : Dispatcher}
    {events : List Event} (rests : session.Rests dispatcher events) :
    session.Knowledge schedule config dispatcher events ∧
      ∀ (others : Schedule (Journal Source)) (origin : Source) (other : Session Source)
        (worker : Dispatcher) (otherEvents : List Event),
        Reachable others config origin other → other.client.state = .discovering →
        other.Rests worker otherEvents → noticesIn otherEvents = noticesIn events →
        Timely config.downsampleEvery config.sanitized.sampleBuffer events →
        Timely config.downsampleEvery config.sanitized.sampleBuffer otherEvents →
        other.client.tracker = session.client.tracker := by
  have own := reachable.knowledge discovering rests
  refine ⟨own, ?_⟩
  intro others origin other worker otherEvents otherReachable stillDiscovering otherRests same
    timely otherTimely
  have its := otherReachable.knowledge stillDiscovering otherRests
  rw [own.timely timely, its.timely otherTimely, same]

/-- Of the crowded events two are taken.  A single sample before the quiet ones makes no
difference. -/
theorem knowledge_of_listening :
    (∃ dispatcher : Dispatcher,
      (listening crowded).Knowledge .patient tight dispatcher crowded) ∧
      (listening crowded).client.source.taken = crowded.take 2 ∧
      (listening (crowded.drop 2)).client.tracker = (listening quiet).client.tracker := by
  rcases rests_listening_crowded with ⟨_, restsCrowded, _⟩
  rcases @rests_listening_of_idle (crowded.drop 2) (by with_unfolding_all rfl)
    (by with_unfolding_all rfl) with ⟨_, restsSparse⟩
  rcases @rests_listening_of_idle quiet (by with_unfolding_all rfl)
    (by with_unfolding_all rfl) with ⟨_, restsQuiet⟩
  refine ⟨⟨_, (knowledge_of_rests (.between .start) (by decide +kernel) restsCrowded).1⟩, ?_, ?_⟩
  · with_unfolding_all rfl
  · exact (knowledge_of_rests (.between .start) (by decide +kernel) restsQuiet).2 _ _ _ _ _
      (.between .start) (by decide +kernel) restsSparse rfl (timely_of_fits (by decide +kernel))
      (timely_of_fits (by decide +kernel))

end Session

end SensorStream
