import SensorStream.Proofs.Consuming
import SensorStream.Source.Script

/-!
# The sample stream of a client

A client's caller makes requests in any order, and the dispatcher works beside it
under any schedule.  The samples that the caller is handed, by observing windows or
one at a time, are together the beginning of what the law of down-sampling makes of
the events that the dispatcher took from the source.
-/

namespace SensorStream

/-- What a caller asks of a client that was started. -/
inductive Request where
  | awaitDiscovery
  | connect (index : Nat)
  | stream
  | nextSample (timeout : Span)
  | shutdown

namespace Client

variable {Source : Type}

@[simp] theorem scene?_transition (client : Client Source) (target : ClientState) :
    (client.transition target).scene? = client.scene? := rfl

@[simp] theorem scene?_absorb (client : Client Source) (scene : Scene Source) :
    (client.absorb scene).scene? = some scene := rfl

@[simp] theorem scene?_concludeDiscovery (client : Client Source) (sensors : List Descriptor) :
    (client.concludeDiscovery sensors).2.scene? = client.scene? := by
  rw [concludeDiscovery]
  split <;> rfl

variable [EventSource Source]

/-- The samples that the caller is handed by an attempt to observe a window. -/
def observed : Except Mishap Observation → List StreamedSample
  | .ok observation => observation.seen
  | .error _ => []

/-- The samples that the caller is handed by an attempt to take one. -/
def received : Except ClientError StreamedSample → List StreamedSample
  | .ok sample => [sample]
  | .error _ => []

theorem received_toExcept (arrival : Channel.Arrival) :
    received arrival.toExcept = arrival.samples := by
  cases arrival <;> rfl

theorem toExcept_eq_streamStopped (arrival : Channel.Arrival) :
    arrival.toExcept = .error .streamStopped ↔ arrival = .stopped := by
  cases arrival <;> simp [Channel.Arrival.toExcept]

/-- Meet a request.  The result is the samples that the caller is handed, and the
client afterwards. -/
def serve (schedule : Schedule Source) (client : Client Source) :
    Request → List StreamedSample × Client Source
  | .awaitDiscovery => ([], (client.awaitDiscovery schedule).2)
  | .connect index => ([], (client.connect schedule index).2)
  | .stream => (observed (client.stream schedule).1, (client.stream schedule).2)
  | .nextSample timeout =>
      (received (client.nextSample schedule timeout).1, (client.nextSample schedule timeout).2)
  | .shutdown => ([], (client.shutdown schedule).2)

/-! ## What a call makes of the dispatcher's side -/

/-- Whether the source lists or not, a client that was started has a dispatcher at work. -/
theorem working_start {holds : Pipeline (Journal Source) → Prop} (lasting : Lasting holds)
    (schedule : Schedule (Journal Source)) {client : Client (Journal Source)}
    (idle : client.state = .idle) {scene : Scene (Journal Source)}
    (employed : (client.employWorker schedule).scene? = some scene)
    (held : holds scene.pipeline) :
    ∃ later : Scene (Journal Source), (client.start schedule).2.scene? = some later ∧
      holds later.pipeline := by
  have acted := lasting.moves (scene.moves_between schedule) held
  rw [start, if_neg (not_not_intro idle), between, employed]
  simp only
  split
  · exact ⟨_, rfl, lasting.source rfl acted⟩
  · exact ⟨_, rfl, lasting.source rfl acted⟩

section Working

variable (schedule : Schedule Source) {client : Client Source} {scene : Scene Source}
  (working : client.scene? = some scene)

include working

theorem working_awaitDiscovery :
    ∃ later : Scene Source, (client.awaitDiscovery schedule).2.scene? = some later ∧
      Moves scene.pipeline later.pipeline := by
  rw [awaitDiscovery]
  split
  · exact ⟨scene, working, .rest _⟩
  · split
    · exact ⟨scene, working, .rest _⟩
    · have moves := scene.moves_watchDiscovery schedule client.config.discoveryPoll.nanoseconds
        client.config_sane.poll client.config.discoveryTimeout.nanoseconds
      rw [working]
      simp only
      generalize scene.watchDiscovery schedule _ client.config_sane.poll _ = watched at moves ⊢
      rcases watched with ⟨outcome, later⟩
      cases outcome with
      | complete sensors => exact ⟨later, scene?_concludeDiscovery _ sensors, moves⟩
      | dispatcherEnded => exact ⟨later, rfl, moves⟩
      | timedOut => exact ⟨later, rfl, moves⟩

/-- Connecting leaves the dispatcher's side alone or makes attempts beside it. -/
theorem working_connect (index : Nat) :
    (client.connect schedule index).2.scene? = some scene ∨
      ∃ (connector : Connector) (sensor : Descriptor),
        (client.connect schedule index).2.scene? =
          some (connector.connect (Scene.approach schedule sensor) scene).2 := by
  rw [connect]
  split
  · exact .inl working
  · split
    case h_1 => exact .inl working
    case h_2 sensor _ =>
      refine .inr ⟨client.connector, sensor, ?_⟩
      rw [attemptConnection]
      rw [scene?_transition, working]
      simp only
      split <;> rfl

/-- Streaming hands out nothing or what an observation brings. -/
theorem working_stream :
    observed (client.stream schedule).1 = [] ∧ (client.stream schedule).2.scene? = some scene ∨
      ∃ window : Nat,
        observed (client.stream schedule).1 =
            ((Scene.surroundings schedule).collect window scene).seen ∧
          (client.stream schedule).2.scene? =
            some ((Scene.surroundings schedule).collect window scene).world := by
  rw [stream]
  split
  · exact .inl ⟨rfl, working⟩
  · simp only [scene?_transition, working]
    split
    · exact .inl ⟨rfl, working⟩
    · exact .inr ⟨_, rfl, rfl⟩

/-- A client that may take a sample waits for one. -/
theorem working_nextSample (timeout : Span)
    (ready : client.state = .connected ∨ client.state = .streaming) :
    (client.nextSample schedule timeout).1 =
        ((Scene.surroundings schedule).receiveWithin
          timeout.nanoseconds scene).arrival.toExcept ∧
      (client.nextSample schedule timeout).2.scene? =
        some ((Scene.surroundings schedule).receiveWithin timeout.nanoseconds scene).world := by
  have proceeds : (if client.state = .connected then client.transition .streaming
      else client).scene? = some scene := by
    split <;> exact working
  rw [nextSample]
  rw [if_neg fun refused => ready.elim refused.1 refused.2]
  simp only [proceeds]
  exact ⟨trivial, rfl⟩

/-- Shutting down stops the dispatcher, unless the client is at its end already. -/
theorem working_shutdown (ongoing : client.state ≠ .terminated) :
    (client.shutdown schedule).2.scene? = none ∧
      (client.shutdown schedule).2.state = .terminated ∧
      (client.shutdown schedule).2.source = (scene.stop schedule).2.2.pipeline.source := by
  rw [shutdown]
  simp only [if_neg ongoing, scene?_transition, working]
  exact ⟨rfl, rfl, rfl⟩

end Working

/-- A client that may not take a sample refuses and changes nothing. -/
theorem nextSample_refused (schedule : Schedule Source) {client : Client Source}
    (unready : ¬(client.state = .connected ∨ client.state = .streaming)) (timeout : Span) :
    client.nextSample schedule timeout = (.error client.wrongState, client) := by
  rw [nextSample]
  rw [if_pos (not_or.1 unready)]

/-- A client at its end hands out nothing and stays there. -/
theorem serve_of_terminated (schedule : Schedule Source) {client : Client Source}
    (terminated : client.state = .terminated) (request : Request) :
    client.serve schedule request = ([], client) := by
  cases request <;>
    simp [serve, awaitDiscovery, connect, stream, nextSample, shutdown, observed, received,
      terminated]

/-- Meeting a request other than to shut down keeps what the dispatcher does by itself and a
look at its channel keep. -/
theorem serve_upheld {holds : List StreamedSample → Pipeline (Journal Source) → Prop}
    (upheld : Upheld holds) (schedule : Schedule (Journal Source))
    {client : Client (Journal Source)} {scene : Scene (Journal Source)}
    (working : client.scene? = some scene) {handed : List StreamedSample}
    (held : holds handed scene.pipeline) {request : Request} (goesOn : request ≠ .shutdown) :
    ∃ later : Scene (Journal Source), (client.serve schedule request).2.scene? = some later ∧
      holds (handed ++ (client.serve schedule request).1) later.pipeline := by
  cases request with
  | awaitDiscovery =>
      rcases working_awaitDiscovery schedule working with ⟨later, still, moves⟩
      refine ⟨later, still, ?_⟩
      rw [serve, List.append_nil]
      exact (upheld.lasting handed).moves moves held
  | connect index =>
      rw [serve, List.append_nil]
      rcases working_connect schedule working index with still | ⟨connector, sensor, still⟩
      · exact ⟨scene, still, held⟩
      · exact ⟨_, still, (upheld.lasting handed).connect schedule connector sensor held⟩
  | stream =>
      rcases working_stream schedule working with ⟨nothing, still⟩ | ⟨window, seen, still⟩
      · rw [serve, nothing, List.append_nil]
        exact ⟨scene, still, held⟩
      · rw [serve, seen]
        exact ⟨_, still, (upheld.keeps schedule).collect window held⟩
  | nextSample timeout =>
      by_cases ready : client.state = .connected ∨ client.state = .streaming
      · rcases working_nextSample schedule working timeout ready with ⟨answer, still⟩
        rw [serve, answer, received_toExcept]
        exact ⟨_, still, (upheld.keeps schedule).receiveWithin timeout.nanoseconds held⟩
      · rw [serve, nextSample_refused schedule ready, received, List.append_nil]
        exact ⟨scene, working, held⟩
  | shutdown => exact absurd rfl goesOn

end Client

/-- A client that was started, and the samples that it has handed to its caller. -/
structure Session (Source : Type) where
  client : Client (Journal Source)
  handed : List StreamedSample

namespace Session

variable {Source : Type} [EventSource Source]

/-- The client was just started. -/
def start (schedule : Schedule (Journal Source)) (config : Config) (source : Source) :
    Session Source :=
  ⟨((Client.new config (.start source)).start schedule).2, []⟩

/-- The dispatcher may act while the caller does something else. -/
def between (schedule : Schedule (Journal Source)) (session : Session Source) : Session Source :=
  { session with client := session.client.between schedule }

/-- The client meets a request. -/
def serve (schedule : Schedule (Journal Source)) (session : Session Source) (request : Request) :
    Session Source :=
  ⟨(session.client.serve schedule request).2,
    session.handed ++ (session.client.serve schedule request).1⟩

/-- A session that a client comes to that is started once, whatever its caller asks
for. -/
inductive Reachable (schedule : Schedule (Journal Source)) (config : Config) (source : Source) :
    Session Source → Prop where
  | start : Reachable schedule config source (start schedule config source)
  | between {session : Session Source} (earlier : Reachable schedule config source session) :
      Reachable schedule config source (session.between schedule)
  | serve {session : Session Source} (earlier : Reachable schedule config source session)
      (request : Request) : Reachable schedule config source (session.serve schedule request)

/-- What is handed out is right: as long as there is a dispatcher it serves the
caller, and without one the client is at its end. -/
inductive Faithful (every : UInt64) (handed : List StreamedSample)
    (client : Client (Journal Source)) : Prop where
  | serving {scene : Scene (Journal Source)} (working : client.scene? = some scene)
      (serving : Serving .fresh every handed scene.pipeline)
  | closed (unattended : client.scene? = none) (terminated : client.state = .terminated)
      (handed_begins : handed <+:
        (DownSampler.fresh every).passed (measurementsIn client.source.taken))

namespace Faithful

variable {every : UInt64} {handed : List StreamedSample} {client : Client (Journal Source)}

omit [EventSource Source] in
/-- What was handed out is the beginning of what should pass down-sampling. -/
theorem handed_prefix_passed (faithful : Faithful every handed client) :
    handed <+: (DownSampler.fresh every).passed (measurementsIn client.source.taken) := by
  cases faithful with
  | serving working serving =>
      rcases Option.map_eq_some_iff.1 working with ⟨dispatcher, employed, rfl⟩
      exact serving.handed_begins
  | closed _ _ handed_begins => exact handed_begins

theorem between (schedule : Schedule (Journal Source)) (faithful : Faithful every handed client) :
    Faithful every handed (client.between schedule) := by
  rw [Client.between]
  cases faithful with
  | @serving scene working serving =>
      rw [working]
      have moves := scene.moves_between schedule
      exact .serving rfl ((serving_lasting .fresh every handed).moves moves serving)
  | closed unattended terminated handed_begins =>
      rw [unattended]
      exact .closed unattended terminated handed_begins

/-- Meeting a request keeps what is handed out right. -/
theorem serve (schedule : Schedule (Journal Source)) (faithful : Faithful every handed client)
    (request : Request) :
    Faithful every (handed ++ (client.serve schedule request).1)
      (client.serve schedule request).2 := by
  cases faithful with
  | closed unattended terminated handed_begins =>
      rw [Client.serve_of_terminated schedule terminated, List.append_nil]
      exact .closed unattended terminated handed_begins
  | @serving scene working serving =>
      by_cases ends : request = .shutdown
      · subst ends
        rw [Client.serve, List.append_nil]
        by_cases terminated : client.state = .terminated
        · rw [Client.shutdown, if_pos terminated]
          exact .serving working serving
        · rcases Client.working_shutdown schedule working terminated with
              ⟨unattended, ended, source⟩
          refine .closed unattended ended ?_
          rw [source]
          have grown := List.IsPrefix.filterMap Event.measurement? (scene.taken_stop schedule)
          exact serving.handed_begins.trans (DownSampler.passed_mono _ grown)
      · rcases Client.serve_upheld (serving_upheld .fresh every) schedule working serving ends with
          ⟨later, still, served⟩
        exact .serving still served

/-- A client that was just started has handed out nothing, and its dispatcher is at
work. -/
theorem of_start (schedule : Schedule (Journal Source)) (config : Config) (source : Source) :
    Faithful config.downsampleEvery [] ((Client.new config (.start source)).start schedule).2 := by
  have fresh := serving_spawn .fresh config.downsampleEvery
    (some config.sanitized.sampleBuffer) source
  have idle : (Client.new config (Journal.start source)).state = .idle := rfl
  rcases Client.working_start (serving_lasting .fresh config.downsampleEvery []) schedule idle
    rfl fresh with ⟨scene, working, serving⟩
  exact .serving working serving

end Faithful

theorem Reachable.faithful {schedule : Schedule (Journal Source)} {config : Config}
    {source : Source} {session : Session Source}
    (reachable : Reachable schedule config source session) :
    Faithful config.downsampleEvery session.handed session.client := by
  induction reachable with
  | start => exact .of_start schedule config source
  | between earlier ih => exact ih.between schedule
  | serve earlier request ih => exact ih.serve schedule request

/-- Every handle has fewer measurements among some events than a 64-bit word counts. -/
def Countable (events : List Event) : Prop :=
  ∀ handle : Handle, occurrences handle (measurementsIn events) < UInt64.size

theorem occurrences_measurementsIn_le (handle : Handle) (events : List Event) :
    occurrences handle (measurementsIn events) ≤ events.length :=
  Nat.le_trans List.countP_le_length (List.length_filterMap_le _ events)

/-- Whatever the caller asks for and however the dispatcher works beside it, what the
caller was handed is the beginning of what the law of down-sampling makes of the events
that were taken.  A caller that asks for one more sample is told that the stream
stopped exactly when it was handed all of that before and the dispatcher is at its
end. -/
theorem handed_prefix_selection {schedule : Schedule (Journal Source)} {config : Config}
    {source : Source} {session : Session Source}
    (reachable : Reachable schedule config source session)
    (countable : Countable session.client.source.taken) :
    session.handed <+:
        selection config.downsampleEvery.toNat (measurementsIn session.client.source.taken) ∧
      ∀ timeout : Span, session.client.state = .connected ∨ session.client.state = .streaming →
        Countable (session.client.nextSample schedule timeout).2.source.taken →
        ((session.client.nextSample schedule timeout).1 = .error .streamStopped ↔
          (∃ dispatcher, (session.client.nextSample schedule timeout).2.worker = some dispatcher ∧
            dispatcher.isRunning = false) ∧
          session.handed = selection config.downsampleEvery.toNat
            (measurementsIn (session.client.nextSample schedule timeout).2.source.taken)) := by
  have faithful := reachable.faithful
  constructor
  · rw [← DownSampler.passed_fresh _ _ countable]
    exact faithful.handed_prefix_passed
  · intro timeout ready countable
    rw [← DownSampler.passed_fresh _ _ countable]
    cases faithful with
    | closed _ terminated _ =>
        rw [terminated] at ready
        exact absurd ready (by decide)
    | @serving scene working serving =>
        rcases Client.working_nextSample schedule working timeout ready with ⟨answer, still⟩
        rcases Option.map_eq_some_iff.1 still with ⟨dispatcher, employed, same⟩
        have stops := serving.receiveWithin_stopped_iff schedule timeout.nanoseconds
        rw [answer, Client.toExcept_eq_streamStopped, stops, employed]
        simp [← same]

/-- Every second of three measurements is left out, the channel has room for one sample,
and the source is closed after them.  The caller observes a window and asks for one more
sample. -/
def drained : Session Script :=
  ((((start .patient
      { Config.default with
        downsampleEvery := 2
        sampleBuffer := 1
        discoveryPoll := ⟨1⟩
        discoveryTimeout := ⟨3⟩
        streamWindow := ⟨3⟩ }
      (.ofResults [.ok [.event (.found ⟨"", "", .simulated, ""⟩), .event (.progress 1)]]
        [.ok (⟨1⟩, [.event (.measured ⟨1⟩ .zero), .event (.measured ⟨1⟩ .zero),
          .event (.measured ⟨1⟩ .zero), .failure .sourceClosed])])).serve
    .patient .awaitDiscovery).serve .patient (.connect 0)).serve .patient .stream).serve
    .patient (.nextSample ⟨1⟩)

theorem handed_selection_of_drained :
    drained.handed = selection 2 (measurementsIn
      (drained.client.nextSample .patient ⟨1⟩).2.source.taken) := by
  have countable : ∀ events : List Event, events.length < 6 → Countable events := by
    intro events short handle
    have few := occurrences_measurementsIn_le handle events
    exact Nat.lt_of_le_of_lt few (Nat.lt_trans short (by decide))
  have reachable : Reachable .patient _ _ drained :=
    .serve (.serve (.serve (.serve .start _) _) _) _
  have stops := (handed_prefix_selection reachable (countable _ (by decide +kernel))).2 ⟨1⟩
    (.inr (by decide +kernel)) (countable _ (by decide +kernel))
  exact (stops.1 (by with_unfolding_all rfl)).2

end Session

end SensorStream
