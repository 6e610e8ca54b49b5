import SensorStream.Proofs.SampleStream

/-!
# The counters that are left after shutdown

Shutting down reads the dispatcher's counters before it waits for the dispatcher's
end.  What the dispatcher still does in between is missing from them: a sample that it
loses because its consumer is gone, or one that the consumer was handed and that does
not count as sent yet.  The counters at the end balance.  Those that were read are the
same exactly if the dispatcher had nothing left to count.
-/

namespace SensorStream

namespace DispatchStats

/-- No counter is behind in `later`. -/
structure AtMost (earlier later : DispatchStats) : Prop where
  systemEvents : earlier.systemEvents ≤ later.systemEvents
  received : earlier.received ≤ later.received
  forwarded : earlier.forwarded ≤ later.forwarded
  suppressed : earlier.suppressed ≤ later.suppressed
  dropped : earlier.dropped ≤ later.dropped

namespace AtMost

theorem refl (stats : DispatchStats) : stats.AtMost stats :=
  ⟨Nat.le_refl _, Nat.le_refl _, Nat.le_refl _, Nat.le_refl _, Nat.le_refl _⟩

theorem trans {first middle last : DispatchStats} (before : first.AtMost middle)
    (after : middle.AtMost last) : first.AtMost last where
  systemEvents := Nat.le_trans before.systemEvents after.systemEvents
  received := Nat.le_trans before.received after.received
  forwarded := Nat.le_trans before.forwarded after.forwarded
  suppressed := Nat.le_trans before.suppressed after.suppressed
  dropped := Nat.le_trans before.dropped after.dropped

/-- Counters that did not grow in sum did not grow. -/
theorem eq_of_sums {earlier later : DispatchStats} (atMost : earlier.AtMost later)
    (systemEvents : earlier.systemEvents = later.systemEvents)
    (received : earlier.received = later.received)
    (settled : earlier.forwarded + earlier.suppressed + earlier.dropped =
      later.forwarded + later.suppressed + later.dropped) : earlier = later := by
  rcases atMost with ⟨_, _, forwardedGrew, suppressedGrew, droppedGrew⟩
  have forwarded : earlier.forwarded = later.forwarded := by omega
  have suppressed : earlier.suppressed = later.suppressed := by omega
  have dropped : earlier.dropped = later.dropped := by omega
  rcases earlier with ⟨_, _, _, _, _⟩
  rcases later with ⟨_, _, _, _, _⟩
  simp only at systemEvents received forwarded suppressed dropped
  rw [systemEvents, received, forwarded, suppressed, dropped]

end AtMost

end DispatchStats

/-! ## Counters along the dispatcher's work -/

section Work

variable {Source : Type} [EventSource Source]

/-- No step takes back what was counted. -/
theorem Pipeline.atMost_step (pipeline : Pipeline Source) :
    pipeline.dispatcher.stats.AtMost pipeline.step.dispatcher.stats := by
  have advance := pipeline.advance_step
  have same := DispatchStats.AtMost.refl pipeline.dispatcher.stats
  generalize pipeline.step = later at advance ⊢
  rcases same with ⟨systemEvents, received, forwarded, suppressed, dropped⟩
  cases advance with
  | countNotice => exact ⟨Nat.le_succ _, received, forwarded, suppressed, dropped⟩
  | countMeasurement => exact ⟨systemEvents, Nat.le_succ _, forwarded, suppressed, dropped⟩
  | countForwarded => exact ⟨systemEvents, received, Nat.le_succ _, suppressed, dropped⟩
  | countSuppressed => exact ⟨systemEvents, received, forwarded, Nat.le_succ _, dropped⟩
  | countDropped => exact ⟨systemEvents, received, forwarded, suppressed, Nat.le_succ _⟩
  | wait =>
      rw [Dispatcher.stats_resume]
      exact ⟨systemEvents, received, forwarded, suppressed, dropped⟩
  | _ => exact ⟨systemEvents, received, forwarded, suppressed, dropped⟩

theorem Lasting.atMost (stats : DispatchStats) :
    Lasting fun pipeline : Pipeline (Journal Source) =>
      stats.AtMost pipeline.dispatcher.stats where
  step := fun before => before.trans (Pipeline.atMost_step _)
  source := fun _ before => before

/-- The counts are right, and the samples that the consumer was handed were put into
the channel. -/
def Booked (handed : List StreamedSample) (pipeline : Pipeline (Journal Source)) : Prop :=
  ∃ placed : List StreamedSample, handed <+: placed ∧ Counted .fresh placed pipeline

theorem Lasting.booked (handed : List StreamedSample) :
    Lasting fun pipeline : Pipeline (Journal Source) => Booked handed pipeline where
  step := by
    rintro pipeline ⟨placed, begins, counted⟩
    exact ⟨placed ++ pipeline.dispatcher.placement, begins.trans (List.prefix_append _ _),
      counted.step⟩
  source := by
    rintro pipeline source same ⟨placed, begins, counted⟩
    exact ⟨placed, begins, counted.withSource same⟩

omit [EventSource Source] in
theorem Serving.booked {every : UInt64} {handed : List StreamedSample}
    {pipeline : Pipeline (Journal Source)} (serving : Serving .fresh every handed pipeline) :
    Booked handed pipeline :=
  ⟨_, List.prefix_append _ _, serving.counted⟩

omit [EventSource Source] in
theorem Booked.requestStop {handed : List StreamedSample} {pipeline : Pipeline (Journal Source)}
    (booked : Booked handed pipeline) :
    Booked handed (pipeline.updateDispatcher Dispatcher.requestStop) := by
  rcases booked with ⟨placed, begins, counted⟩
  exact ⟨placed, begins, counted.requestStop⟩

omit [EventSource Source] in
theorem Booked.dropReceiver {handed : List StreamedSample} {pipeline : Pipeline (Journal Source)}
    (booked : Booked handed pipeline) :
    Booked handed (pipeline.updateDispatcher fun dispatcher =>
      { dispatcher with sink := dispatcher.sink.dropReceiver }) := by
  rcases booked with ⟨placed, begins, counted⟩
  exact ⟨placed, begins, counted.dropReceiver⟩

end Work

/-! ## Reading early -/

/-- Nothing is left to count: neither of what the dispatcher is doing, nor among the
events that it takes later. -/
structure Pipeline.NothingToCount {Source : Type} (pipeline : Pipeline (Journal Source))
    (later : List Event) : Prop where
  owed : pipeline.dispatcher.phase.owed = 0
  notices : noticesIn (pipeline.dispatcher.phase.uncounted ++ later) = []
  measurements : measurementsIn (pipeline.dispatcher.phase.uncounted ++ later) = []

/-- At its end a dispatcher has counted every event that it took and settled every
measurement. -/
theorem Counted.at_end {Source : Type} {origin : Tracker} {placed : List StreamedSample}
    {pipeline : Pipeline (Journal Source)} (counted : Counted origin placed pipeline)
    (halted : pipeline.dispatcher.isRunning = false) :
    pipeline.dispatcher.stats.systemEvents = (noticesIn pipeline.source.taken).length ∧
      pipeline.dispatcher.stats.received = (measurementsIn pipeline.source.taken).length ∧
      pipeline.dispatcher.stats.received =
        pipeline.dispatcher.stats.forwarded + pipeline.dispatcher.stats.suppressed +
          pipeline.dispatcher.stats.dropped ∧
      pipeline.dispatcher.stats.forwarded = placed.length := by
  rcases Dispatcher.phase_of_not_running halted with ⟨exit, phase⟩
  rcases counted with ⟨_, systemEvents, received, balance, forwarded, _⟩
  rw [phase] at systemEvents received balance forwarded
  exact ⟨systemEvents, received, balance, forwarded⟩

/-- Counters that are read while the dispatcher is at work are those at its end exactly
if nothing is left to count. -/
theorem stats_eq_iff {Source : Type} {origin : Tracker} {early placed : List StreamedSample}
    {read final : Pipeline (Journal Source)} {later : List Event}
    (countedEarly : Counted origin early read) (counted : Counted origin placed final)
    (atMost : read.dispatcher.stats.AtMost final.dispatcher.stats)
    (grown : final.source.taken = read.source.taken ++ later)
    (halted : final.dispatcher.isRunning = false) :
    read.dispatcher.stats = final.dispatcher.stats ↔ read.NothingToCount later := by
  rcases countedEarly with ⟨_, systemEvents, received, balance, _, _⟩
  rcases counted.at_end halted with ⟨finalSystemEvents, finalReceived, finalBalance, _⟩
  rw [grown, noticesIn_append, List.length_append] at finalSystemEvents
  rw [grown, measurementsIn_append, List.length_append] at finalReceived
  constructor
  · intro same
    rw [same] at systemEvents received balance
    have owed : read.dispatcher.phase.owed = 0 := by omega
    refine ⟨owed, ?_, ?_⟩
    · apply List.eq_nil_of_length_eq_zero
      rw [noticesIn_append, List.length_append]
      omega
    · apply List.eq_nil_of_length_eq_zero
      rw [measurementsIn_append, List.length_append]
      omega
  · rintro ⟨owed, notices, measurements⟩
    have noNotices := congrArg List.length notices
    have noMeasurements := congrArg List.length measurements
    rw [noticesIn_append, List.length_append, List.length_nil] at noNotices
    rw [measurementsIn_append, List.length_append, List.length_nil] at noMeasurements
    apply atMost.eq_of_sums
    · omega
    · omega
    · omega

namespace Scene

variable {Source : Type} [EventSource Source]

/-- The scene at the moment when stopping reads the counters. -/
def parting (schedule : Schedule Source) (scene : Scene Source) : Scene Source :=
  let scene := scene.update fun pipeline => pipeline.updateDispatcher Dispatcher.requestStop
  let scene := scene.between schedule
  let scene := scene.update fun pipeline => pipeline.updateSource EventSource.shutdown
  let scene := scene.between schedule
  let scene := scene.update fun pipeline =>
    pipeline.updateDispatcher fun dispatcher =>
      { dispatcher with sink := dispatcher.sink.dropReceiver }
  scene.between schedule

/-- The dispatcher's side when stopping is done. -/
def atEnd (schedule : Schedule Source) (scene : Scene Source) : Pipeline Source :=
  (scene.stop schedule).2.2.pipeline

/-- What the counters are worth that are left when a dispatcher was stopped whose
consumer had been handed so many samples. -/
structure Aftermath (schedule : Schedule (Journal Source)) (scene : Scene (Journal Source))
    (accepted : Nat) (left : DispatchStats) : Prop where
  /-- They were read at parting. -/
  read : left = (scene.parting schedule).pipeline.dispatcher.stats
  /-- The dispatcher came to its end, but no counter went back. -/
  ended : (scene.atEnd schedule).dispatcher.isRunning = false
  atMost : left.AtMost (scene.atEnd schedule).dispatcher.stats
  /-- The counters at the end balance. -/
  balance : (scene.atEnd schedule).dispatcher.stats.received =
    (scene.atEnd schedule).dispatcher.stats.forwarded +
      (scene.atEnd schedule).dispatcher.stats.suppressed +
      (scene.atEnd schedule).dispatcher.stats.dropped
  accepted : accepted ≤ (scene.atEnd schedule).dispatcher.stats.forwarded
  /-- They are the counters at the end exactly if nothing was left to count. -/
  final : ∃ later : List Event,
    (scene.atEnd schedule).source.taken =
        (scene.parting schedule).pipeline.source.taken ++ later ∧
      (left = (scene.atEnd schedule).dispatcher.stats ↔
        (scene.parting schedule).pipeline.NothingToCount later)

theorem booked_parting (schedule : Schedule (Journal Source)) {scene : Scene (Journal Source)}
    {handed : List StreamedSample} (booked : Booked handed scene.pipeline) :
    Booked handed (scene.parting schedule).pipeline := by
  have lasting := @Lasting.booked Source _ handed
  unfold parting
  refine lasting.moves (moves_between schedule _) (Booked.dropReceiver ?_)
  refine lasting.moves (moves_between schedule _) (lasting.source rfl ?_)
  exact lasting.moves (moves_between schedule _) booked.requestStop

theorem aftermath_of_booked (schedule : Schedule (Journal Source))
    {scene : Scene (Journal Source)} {handed : List StreamedSample}
    (booked : Booked handed scene.pipeline) :
    scene.Aftermath schedule handed.length (scene.stop schedule).2.1 := by
  have read := scene.booked_parting schedule booked
  have atMost : (scene.parting schedule).pipeline.dispatcher.stats.AtMost
      (scene.atEnd schedule).dispatcher.stats := by
    have lasting := @Lasting.atMost Source _
      (scene.parting schedule).pipeline.dispatcher.stats
    have between := lasting.moves (moves_between schedule _) (.refl _)
    exact lasting.join between
  have halted : (scene.atEnd schedule).dispatcher.isRunning = false :=
    Pipeline.isRunning_join _
  have final : Booked handed (scene.atEnd schedule) := by
    have lasting := @Lasting.booked Source _ handed
    have between := lasting.moves (moves_between schedule _) read
    exact lasting.join between.requestStop
  have grown : (scene.parting schedule).pipeline.source.taken <+:
      (scene.atEnd schedule).source.taken := by
    exact (Lasting.taken _).join (taken_between schedule _)
  rcases read with ⟨early, _, countedEarly⟩
  rcases final with ⟨placed, begins, counted⟩
  rcases grown with ⟨later, grown⟩
  rcases counted.at_end halted with ⟨_, _, balance, forwarded⟩
  refine ⟨rfl, halted, atMost, balance, ?_, later, grown.symm, ?_⟩
  · rw [forwarded]
    exact begins.length_le
  · exact stats_eq_iff countedEarly counted atMost grown.symm halted

end Scene

/-! ## What a client and a run report -/

namespace Client

section Calls

variable {Source : Type} [EventSource Source] (schedule : Schedule Source)
  {client : Client Source}

/-- A client that was shut down has the counters that were read. -/
theorem stats_shutdown {scene : Scene Source} (working : client.scene? = some scene)
    (ongoing : client.state ≠ .terminated) :
    (client.shutdown schedule).2.stats = (scene.stop schedule).2.1 := by
  rw [shutdown]
  simp only [if_neg ongoing, scene?_transition, working]
  rfl

/-- A client that observed a window is streaming, and its observation counts what it
saw. -/
theorem stream_of_ok {observation : Observation} {later : Client Source}
    (streamed : client.stream schedule = (.ok observation, later)) :
    later.state = .streaming ∧ observation.totals = .ofSamples observation.seen := by
  rw [stream] at streamed
  split at streamed
  · cases streamed
  · simp only at streamed
    split at streamed
    · cases streamed
    · split at streamed
      · cases streamed
      · cases streamed
        exact ⟨rfl, rfl⟩

end Calls

end Client

namespace Session

variable {Source : Type} [EventSource Source]

/-- The last part of a run streams, shuts down and reports the counters that are left. -/
theorem Reachable.of_streamToEnd {schedule : Schedule (Journal Source)} {config : Config}
    {source : Source} {client : Client (Journal Source)}
    (reachable : Reachable schedule config source ⟨client, []⟩) {handle : Handle}
    {report : RunReport} {later : Client (Journal Source)}
    (done : client.streamToEnd schedule handle = (.ok report, later)) :
    ∃ session : Session Source, Reachable schedule config source session ∧
      session.client.state = .streaming ∧ later = (session.client.shutdown schedule).2 ∧
      report.dispatcher = later.stats ∧
      report.observation.totals.accepted = session.handed.length := by
  have served := reachable.serve .stream
  simp only [Session.serve, Client.serve, List.nil_append] at served
  rw [Client.streamToEnd] at done
  cases streamed : client.stream schedule with
  | mk outcome streaming =>
      rw [streamed] at served done
      cases outcome with
      | error mishap => cases done
      | ok observation =>
          rcases Client.stream_of_ok schedule streamed with ⟨state, totals⟩
          simp only at done
          split at done
          · cases done
          · cases done
            refine ⟨_, served, state, rfl, rfl, ?_⟩
            rw [totals, Totals.accepted_ofSamples]
            rfl

/-- A run that is successful shuts down a client that has streamed, and reports the
counters that are left. -/
theorem Reachable.of_run {schedule : Schedule (Journal Source)} {config : Config}
    {source : Source} {report : RunReport} {later : Client (Journal Source)}
    (done : Client.run schedule config (.start source) = (.ok report, later)) :
    ∃ session : Session Source, Reachable schedule config source session ∧
      session.client.state = .streaming ∧ later = (session.client.shutdown schedule).2 ∧
      report.dispatcher = later.stats ∧
      report.observation.totals.accepted = session.handed.length := by
  have began : Reachable schedule config source (Session.start schedule config source) := .start
  rw [Client.run] at done
  rw [Session.start] at began
  cases started : (Client.new config (Journal.start source)).start schedule with
  | mk result client =>
      rw [started] at began done
      cases result with
      | error error => cases done
      | ok _ =>
          have awaited := began.serve .awaitDiscovery
          simp only [Session.serve, Client.serve, List.append_nil] at awaited done
          cases discovered : client.awaitDiscovery schedule with
          | mk result client =>
              rw [discovered] at awaited done
              cases result with
              | error mishap => cases done
              | ok sensors =>
                  have connected := awaited.serve (.connect 0)
                  simp only [Session.serve, Client.serve, List.append_nil] at connected done
                  cases attempted : client.connect schedule 0 with
                  | mk result client =>
                      rw [attempted] at connected done
                      cases result with
                      | error error => cases done
                      | ok handle => exact of_streamToEnd connected done

end Session

/-! ## Reports that are not final -/

/-- The schedule in which the dispatcher takes its steps only while its caller waits,
and handling a sample takes all the time that is left. -/
def Schedule.stepwise {Source : Type} [EventSource Source] : Schedule Source where
  between _ pipeline := pipeline
  idle _ budget pipeline :=
    if positive : 0 < budget then some ⟨budget - 1, Elapsed.pred_lt positive, pipeline.step⟩
    else none
  lapse _ _ positive pipeline := ⟨0, positive, pipeline⟩
  overlap _ _ := []
  clock _ := 0
  between_moves _ pipeline := .rest pipeline
  idle_moves _ budget pipeline elapsed happens := by
    split at happens
    · cases happens
      exact .step (.rest _)
    · cases happens
  lapse_moves _ _ _ pipeline := .rest pipeline

namespace Client

/-- The counters that a run reports, and how many samples it accepted. -/
def figures (outcome : Except Mishap RunReport) : Option (DispatchStats × Nat) :=
  match outcome with
  | .ok report => some (report.dispatcher, report.observation.totals.accepted)
  | .error _ => none

theorem exists_report_of_figures {Source : Type} [EventSource Source]
    {outcome : Except Mishap RunReport × Client Source} {stats : DispatchStats} {accepted : Nat}
    (reported : figures outcome.1 = some (stats, accepted)) :
    ∃ (report : RunReport) (later : Client Source), outcome = (.ok report, later) ∧
      report.dispatcher = stats ∧ report.observation.totals.accepted = accepted := by
  rcases outcome with ⟨result, later⟩
  cases result with
  | error mishap => cases reported
  | ok report =>
      cases reported
      exact ⟨report, later, rfl, rfl, rfl⟩

/-- Settings with room for one sample in the channel, which leave out no sample. -/
def narrow (pause poll window : Span) : Config :=
  { Config.default with
    retryDelay := pause
    discoveryPoll := poll
    discoveryTimeout := .ofSeconds 5
    streamWindow := window
    downsampleEvery := 0
    sampleBuffer := 1 }

/-- A source that finds a sensor and then measures three times, and to which the second
attempt to connect succeeds. -/
def early : Script :=
  .ofResults
    [.ok [.event (.found ⟨"LPMS", "a", .simulated, "sim"⟩), .event (.progress 1),
      .event (.measured ⟨1⟩ .zero), .event (.measured ⟨1⟩ .zero), .event (.measured ⟨1⟩ .zero)]]
    [.error .refused, .ok (⟨1⟩, [])]

/-- A run may report a measurement that neither was sent nor left out nor lost, when the
dispatcher was blocked on a full channel; and it may report fewer samples as sent than
it accepted itself, when the last of them was not counted yet. -/
theorem run_reports_early_counters :
    (¬∀ (schedule : Schedule Script) (config : Config) (source : Script) (report : RunReport)
      (later : Client Script), Client.run schedule config source = (.ok report, later) →
      report.dispatcher.received = report.dispatcher.forwarded + report.dispatcher.suppressed +
        report.dispatcher.dropped) ∧
    ¬∀ (schedule : Schedule Script) (config : Config) (source : Script) (report : RunReport)
      (later : Client Script), Client.run schedule config source = (.ok report, later) →
      report.observation.totals.accepted ≤ report.dispatcher.forwarded := by
  have blocked : figures (Client.run .patient
      (narrow (.ofMilliseconds 50) (.ofMilliseconds 1) .zero) early).1 =
      some (⟨2, 2, 1, 0, 0⟩, 0) := by decide +kernel
  have uncounted : figures (Client.run .stepwise (narrow .zero ⟨1⟩ ⟨30⟩) early).1 =
      some (⟨2, 1, 0, 0, 0⟩, 1) := by decide +kernel
  constructor
  · intro balanced
    rcases exists_report_of_figures blocked with ⟨report, later, done, stats, _⟩
    have balance := balanced _ _ _ report later done
    rw [stats] at balance
    exact absurd balance (by decide)
  · intro covered
    rcases exists_report_of_figures uncounted with ⟨report, later, done, stats, accepted⟩
    have cover := covered _ _ _ report later done
    rw [stats, accepted] at cover
    exact absurd cover (by decide)

end Client

namespace Session

variable {Source : Type} [EventSource Source]

/-- A client that was not shut down yet has a dispatcher, and shutting down leaves
counters that were read before that dispatcher's end. -/
theorem Reachable.aftermath {schedule : Schedule (Journal Source)} {config : Config}
    {source : Source} {session : Session Source}
    (reachable : Reachable schedule config source session)
    (ongoing : session.client.state ≠ .terminated) :
    ∃ scene : Scene (Journal Source), session.client.scene? = some scene ∧
      scene.Aftermath schedule session.handed.length
        (session.client.shutdown schedule).2.stats := by
  cases reachable.faithful with
  | closed _ terminated _ => exact absurd terminated ongoing
  | @serving scene working serving =>
      rw [Client.stats_shutdown schedule working ongoing]
      exact ⟨scene, working, scene.aftermath_of_booked schedule serving.booked⟩

/-- However the dispatcher works beside its caller, the counters that are left after a
shutdown, and those that a run reports, were read before the dispatcher's end: they are
the counters at the end exactly if nothing was left to count then.  The counters at the
end balance and cover all samples that were handed out. -/
theorem counters_after_shutdown (schedule : Schedule (Journal Source)) (config : Config)
    (source : Source) :
    (∀ session : Session Source, Reachable schedule config source session →
      session.client.state ≠ .terminated →
      ∃ scene : Scene (Journal Source), session.client.scene? = some scene ∧
        scene.Aftermath schedule session.handed.length
          (session.client.shutdown schedule).2.stats) ∧
    ∀ (report : RunReport) (later : Client (Journal Source)),
      Client.run schedule config (.start source) = (.ok report, later) →
      ∃ (session : Session Source) (scene : Scene (Journal Source)),
        Reachable schedule config source session ∧ session.client.scene? = some scene ∧
          later = (session.client.shutdown schedule).2 ∧ report.dispatcher = later.stats ∧
          scene.Aftermath schedule report.observation.totals.accepted report.dispatcher := by
  constructor
  · intro session reachable ongoing
    exact reachable.aftermath ongoing
  · intro report later done
    rcases Reachable.of_run done with ⟨session, reachable, state, stopped, reported, accepted⟩
    have ongoing : session.client.state ≠ .terminated := by
      rw [state]
      decide
    rcases reachable.aftermath ongoing with ⟨scene, working, aftermath⟩
    rw [← accepted, ← stopped, ← reported] at aftermath
    exact ⟨session, scene, reachable, working, stopped, reported, aftermath⟩

/-- The run whose dispatcher is blocked on a full channel is such a run. -/
theorem counters_after_blocked_run :
    ∃ (report : RunReport) (later : Client (Journal Script)) (scene : Scene (Journal Script)),
      Client.run .patient (Client.narrow (.ofMilliseconds 50) (.ofMilliseconds 1) .zero)
          (.start Client.early) = (.ok report, later) ∧
        report.dispatcher = ⟨2, 2, 1, 0, 0⟩ ∧
        scene.Aftermath .patient report.observation.totals.accepted report.dispatcher := by
  have blocked : Client.figures (Client.run .patient
      (Client.narrow (.ofMilliseconds 50) (.ofMilliseconds 1) .zero)
      (Journal.start Client.early)).1 = some (⟨2, 2, 1, 0, 0⟩, 0) := by decide +kernel
  rcases Client.exists_report_of_figures blocked with ⟨report, later, done, stats, _⟩
  rcases (counters_after_shutdown .patient _ _).2 report later done with
      ⟨_, scene, _, _, _, _, aftermath⟩
  exact ⟨report, later, scene, done, stats, aftermath⟩

end Session

end SensorStream
