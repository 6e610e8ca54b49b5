import SensorStream.Proofs.SampleStream

/-!
# What a call can do to a client

A caller makes calls in any order, and the dispatcher works beside it under any
schedule.  `Passage` lists what each call can do to a client, with what has to be the
case for it; everything that is true of a client between two calls is proved by a case
analysis over this list.
-/

namespace SensorStream

/-! ## Calls and replies -/

/-- What a caller can ask of a client. -/
inductive Call where
  | start
  | awaitDiscovery
  | connect (index : Nat)
  | stream
  | nextSample (timeout : Span)
  | shutdown
  | drop

/-- What a call brings. -/
inductive Reply where
  | started
  | discovered (sensors : List Descriptor)
  | connected (handle : Handle)
  | observed (observation : Observation)
  | handed (sample : StreamedSample)
  | ended (exit : Option DispatchExit)
  | dropped

namespace Client

variable {Source : Type}

/-- The client is in a state in which the call makes sense. -/
def Accepts (client : Client Source) : Call → Prop
  | .start => client.state = .idle
  | .awaitDiscovery => client.state = .discovering
  | .connect index => client.state = .sensorFound ∧ index < client.sensors.length
  | .stream => client.state = .connected
  | .nextSample _ => client.state = .connected ∨ client.state = .streaming
  | .shutdown => True
  | .drop => True

/-- The error of a call that does not fit. -/
def refusal (client : Client Source) : Call → ClientError
  | .connect _ =>
      if client.state = .sensorFound then .wrongState "SensorFound (no such sensor index)"
      else .wrongState client.state.name
  | _ => .wrongState client.state.name

/-- There is a dispatcher, and the consumer's end of its channel is in place. -/
def Attended (client : Client Source) : Prop :=
  ∃ scene : Scene Source, client.scene? = some scene ∧
    scene.pipeline.dispatcher.sink.receiverAlive = true

/-- Nothing changed but what is the dispatcher's. -/
structure Kept (client later : Client Source) : Prop where
  config : later.config = client.config
  state : later.state = client.state
  trail : later.trail = client.trail
  sensors : later.sensors = client.sensors
  connection : later.connection = client.connection

namespace Kept

theorem refl (client : Client Source) : client.Kept client :=
  ⟨rfl, rfl, rfl, rfl, rfl⟩

theorem trans {first middle last : Client Source} (before : first.Kept middle)
    (after : middle.Kept last) : first.Kept last where
  config := after.config.trans before.config
  state := after.state.trans before.state
  trail := after.trail.trans before.trail
  sensors := after.sensors.trans before.sensors
  connection := after.connection.trans before.connection

theorem absorb (client : Client Source) (scene : Scene Source) :
    client.Kept (client.absorb scene) :=
  ⟨rfl, rfl, rfl, rfl, rfl⟩

end Kept

theorem attended_absorb {client : Client Source} {scene : Scene Source}
    (received : scene.pipeline.dispatcher.sink.receiverAlive = true) :
    (client.absorb scene).Attended :=
  ⟨scene, rfl, received⟩

variable [EventSource Source]

/-- Meet a call. -/
def meet (schedule : Schedule Source) (client : Client Source) :
    Call → Except Mishap Reply × Client Source
  | .start =>
      (((client.start schedule).1.mapError .error).map fun _ => .started,
        (client.start schedule).2)
  | .awaitDiscovery =>
      ((client.awaitDiscovery schedule).1.map .discovered, (client.awaitDiscovery schedule).2)
  | .connect index =>
      (((client.connect schedule index).1.mapError .error).map .connected,
        (client.connect schedule index).2)
  | .stream => ((client.stream schedule).1.map .observed, (client.stream schedule).2)
  | .nextSample timeout =>
      (((client.nextSample schedule timeout).1.mapError .error).map .handed,
        (client.nextSample schedule timeout).2)
  | .shutdown => (.ok (.ended (client.shutdown schedule).1), (client.shutdown schedule).2)
  | .drop => (.ok .dropped, client.drop schedule)

end Client

/-- The call that makes the request. -/
def Request.call : Request → Call
  | .awaitDiscovery => .awaitDiscovery
  | .connect index => .connect index
  | .stream => .stream
  | .nextSample timeout => .nextSample timeout
  | .shutdown => .shutdown

theorem Client.serve_eq_meet {Source : Type} [EventSource Source] (schedule : Schedule Source)
    (client : Client Source) (request : Request) :
    (client.serve schedule request).2 = (client.meet schedule request.call).2 := by
  cases request <;> rfl

/-! ## The consumer's end of the channel -/

section Receiver

variable {Source : Type} [EventSource Source]

/-- The consumer's end stays while the consumer waits. -/
theorem Moves.receiverAlive {first last : Pipeline Source} (moves : Moves first last) :
    last.dispatcher.sink.receiverAlive = first.dispatcher.sink.receiverAlive := by
  induction moves with
  | rest => rfl
  | step _ ih => exact ih.trans (Pipeline.receiverAlive_step _)
  | advance _ _ ih => exact ih

/-- Taking samples does not drop the consumer's end. -/
theorem Scene.keeps_receiverAlive (schedule : Schedule Source) :
    (Scene.surroundings schedule).Keeps fun _ scene =>
      scene.pipeline.dispatcher.sink.receiverAlive = true where
  poll := by
    intro handed scene received
    rcases scene.pipeline.dispatcher.sink.receive_eq with ⟨rest, _, left⟩
    simp only [Surroundings.poll, Scene.surroundings, Scene.update, Pipeline.updateDispatcher]
    rw [left]
    exact received
  idle := by
    intro handed scene budget elapsed happens received
    exact (Scene.moves_idle happens).receiverAlive.trans received
  lapse := by
    intro handed scene budget positive received
    exact (scene.moves_lapse schedule budget positive).receiverAlive.trans received

/-- The consumer's end of the later dispatcher's channel stays while that dispatcher takes the
place of another one. -/
theorem Schedule.receiverAlive_replace (schedule : Schedule Source) (tick : Nat)
    {succession : Succession Source} (received : succession.later.sink.receiverAlive = true) :
    (schedule.replace tick succession).later.sink.receiverAlive = true := by
  apply Succession.replace_keeps fun both => both.later.sink.receiverAlive = true
  · intro both turn before
    cases turn with
    | earlier => exact before
    | later => exact (Pipeline.receiverAlive_step both.laterSide).trans before
    | pass budget =>
        rw [Succession.turn]
        split <;> exact before
  · exact id
  · exact received

theorem Connector.receiverAlive_connect (connector : Connector) (schedule : Schedule Source)
    (sensor : Descriptor) {scene : Scene Source}
    (received : scene.pipeline.dispatcher.sink.receiverAlive = true) :
    (connector.connect (Scene.approach schedule sensor)
      scene).2.pipeline.dispatcher.sink.receiverAlive = true := by
  apply connector.attemptUpTo_keeps fun world : Scene Source =>
    world.pipeline.dispatcher.sink.receiverAlive = true
  · intro world before
    exact (world.moves_between schedule).receiverAlive.trans before
  · intro span world before
    exact (world.moves_sleep schedule span.nanoseconds).receiverAlive.trans before
  · exact received

end Receiver

/-! ## What a call can do -/

namespace Client

variable {Source : Type} [EventSource Source]

/-- A call, its reply and the client afterwards. -/
inductive Passage (schedule : Schedule Source) (client : Client Source) :
    Call → Except Mishap Reply → Client Source → Prop where
  /-- The call does not fit the state. -/
  | refuse {call : Call} (unfit : ¬client.Accepts call) :
      Passage schedule client call (.error (.error (client.refusal call))) client
  /-- The dispatcher was started, but the source does not list. -/
  | failToStart {error : ClientError} {later : Client Source} (state : client.state = .idle)
      (kept : client.Kept later) (attended : later.Attended) :
      Passage schedule client .start (.error (.error error)) later
  | start {later : Client Source} (state : client.state = .idle) (kept : client.Kept later)
      (attended : later.Attended) :
      Passage schedule client .start (.ok .started) (later.transition .discovering)
  /-- Discovery was not complete in time or breaks off. -/
  | failToDiscover {mishap : Mishap} {later : Client Source}
      (state : client.state = .discovering) (kept : client.Kept later)
      (attended : client.Attended → later.Attended)
      (overflow : mishap = .deadlineOverflow →
        deadlineFits (schedule.clock client.tick) client.config.discoveryTimeout = false) :
      Passage schedule client .awaitDiscovery (.error mishap) later
  | findNone {later : Client Source} (state : client.state = .discovering)
      (kept : client.Kept later) (attended : client.Attended → later.Attended) :
      Passage schedule client .awaitDiscovery (.error (.error .noSensorFound))
        ({ later with sensors := [] }.transition .noSensorFound)
  | find {sensors : List Descriptor} {later : Client Source}
      (state : client.state = .discovering) (found : sensors ≠ []) (kept : client.Kept later)
      (attended : client.Attended → later.Attended) :
      Passage schedule client .awaitDiscovery (.ok (.discovered sensors))
        ({ later with sensors := sensors }.transition .sensorFound)
  | connect {index : Nat} {sensor : Descriptor} {handle : Handle} {later : Client Source}
      (state : client.state = .sensorFound) (listed : client.sensors[index]? = some sensor)
      (kept : (client.transition .connecting).Kept later)
      (attended : client.Attended → later.Attended) :
      Passage schedule client (.connect index) (.ok (.connected handle))
        ({ later with connection := some (sensor, handle) }.transition .connected)
  | failToConnect {index attempts : Nat} {last : AcquireError} {later : Client Source}
      (state : client.state = .sensorFound) (listed : index < client.sensors.length)
      (kept : (client.transition .connecting).Kept later)
      (attended : client.Attended → later.Attended) :
      Passage schedule client (.connect index) (.error (.error (.connectFailed attempts last)))
        (later.transition .connectFailed)
  | stream {observation : Observation} {later : Client Source}
      (state : client.state = .connected) (kept : (client.transition .streaming).Kept later)
      (attended : client.Attended → later.Attended) :
      Passage schedule client .stream (.ok (.observed observation)) later
  /-- There is nobody to stream from, or the window is longer than the clock can tell. -/
  | failToStream {mishap : Mishap} {later : Client Source} (state : client.state = .connected)
      (kept : (client.transition .streaming).Kept later)
      (attended : client.Attended → later.Attended)
      (reason : client.Attended → mishap = .deadlineOverflow ∧ ∃ tick,
        deadlineFits (schedule.clock tick) client.config.streamWindow = false) :
      Passage schedule client .stream (.error mishap) later
  | nextSample {timeout : Span} {result : Except ClientError StreamedSample}
      {ready later : Client Source}
      (state : client.state = .connected ∧ ready = client.transition .streaming ∨
        client.state = .streaming ∧ ready = client)
      (kept : ready.Kept later) (attended : client.Attended → later.Attended) :
      Passage schedule client (.nextSample timeout) ((result.mapError .error).map .handed) later
  | shutDown {exit : Option DispatchExit} {later : Client Source}
      (ongoing : client.state ≠ .terminated) (kept : (client.transition .shuttingDown).Kept later)
      (unattended : later.scene? = none) :
      Passage schedule client .shutdown (.ok (.ended exit)) (later.transition .terminated)
  | drop {later : Client Source}
      (ongoing : client.state ≠ .terminated) (kept : (client.transition .shuttingDown).Kept later)
      (unattended : later.scene? = none) :
      Passage schedule client .drop (.ok .dropped) (later.transition .terminated)
  | stayShutDown (terminated : client.state = .terminated) :
      Passage schedule client .shutdown (.ok (.ended none)) client
  | stayDropped (terminated : client.state = .terminated) :
      Passage schedule client .drop (.ok .dropped) client

variable (schedule : Schedule Source) (client : Client Source)

theorem kept_between : client.Kept (client.between schedule) := by
  rw [between]
  split
  · exact .refl client
  · exact .absorb client _

variable {client} in
theorem Attended.between (attended : client.Attended) : (client.between schedule).Attended := by
  rcases attended with ⟨scene, working, received⟩
  rw [Client.between, working]
  exact attended_absorb ((scene.moves_between schedule).receiverAlive.trans received)

theorem kept_employWorker : client.Kept (client.employWorker schedule) := by
  rw [employWorker]
  split <;> exact ⟨rfl, rfl, rfl, rfl, rfl⟩

theorem attended_employWorker : (client.employWorker schedule).Attended := by
  rw [employWorker]
  split
  · exact ⟨_, rfl, rfl⟩
  · exact attended_absorb (schedule.receiverAlive_replace client.tick rfl)

theorem passage_start :
    client.Passage schedule .start (client.meet schedule .start).1
      (client.meet schedule .start).2 := by
  rw [meet, Client.start]
  by_cases state : client.state = .idle
  · rw [if_neg (not_not_intro state)]
    have kept := (client.kept_employWorker schedule).trans
      ((client.employWorker schedule).kept_between schedule)
    have attended := (client.attended_employWorker schedule).between schedule
    generalize (client.employWorker schedule).between schedule = working at kept attended
    -- Asking the source to list changes nothing but the source.
    have listed : ∀ source : Source, working.Kept { working with source := source } :=
      fun _ => ⟨rfl, rfl, rfl, rfl, rfl⟩
    have still : ∀ source : Source, { working with source := source }.Attended := by
      intro source
      rcases attended with ⟨scene, present, received⟩
      rcases Option.map_eq_some_iff.1 present with ⟨dispatcher, employed, rfl⟩
      exact ⟨_, congrArg (Option.map _) employed, received⟩
    simp only
    rcases EventSource.list working.source with ⟨result, source⟩
    cases result with
    | error error => exact .failToStart state (kept.trans (listed source)) (still source)
    | ok _ => exact .start state (kept.trans (listed source)) (still source)
  · rw [if_pos state]
    exact .refuse state

theorem passage_awaitDiscovery :
    client.Passage schedule .awaitDiscovery (client.meet schedule .awaitDiscovery).1
      (client.meet schedule .awaitDiscovery).2 := by
  have concludes : ∀ (later : Client Source) (sensors : List Descriptor),
      client.state = .discovering → client.Kept later → (client.Attended → later.Attended) →
      client.Passage schedule .awaitDiscovery
        ((later.concludeDiscovery sensors).1.map .discovered)
        (later.concludeDiscovery sensors).2 := by
    intro later sensors state kept attended
    cases sensors with
    | nil => exact .findNone state kept attended
    | cons sensor others => exact .find state (List.cons_ne_nil _ _) kept attended
  rw [meet, Client.awaitDiscovery]
  by_cases state : client.state = .discovering
  · rw [if_neg (not_not_intro state)]
    cases fits : deadlineFits (schedule.clock client.tick) client.config.discoveryTimeout with
    | false => exact .failToDiscover state (.refl client) id fun _ => fits
    | true =>
        simp only [Bool.not_true, Bool.false_eq_true, if_false]
        cases working : client.scene? with
        | none =>
            simp only
            split
            · exact concludes client _ state (.refl client) id
            · exact .failToDiscover state (.refl client) id (by intro overflow; cases overflow)
        | some scene =>
            have moves := scene.moves_watchDiscovery schedule
              client.config.discoveryPoll.nanoseconds client.config_sane.poll
              client.config.discoveryTimeout.nanoseconds
            simp only
            generalize scene.watchDiscovery schedule _ client.config_sane.poll _ = watched
              at moves ⊢
            rcases watched with ⟨outcome, last⟩
            have attended : client.Attended → (client.absorb last).Attended := by
              rintro ⟨first, present, received⟩
              cases working.symm.trans present
              exact attended_absorb (moves.receiverAlive.trans received)
            cases outcome with
            | complete sensors => exact concludes _ sensors state (.absorb client last) attended
            | dispatcherEnded | timedOut =>
                exact .failToDiscover state (.absorb client last) attended
                  (by intro overflow; cases overflow)
  · rw [if_pos state]
    exact .refuse state

theorem kept_attemptConnection (sensor : Descriptor) :
    client.Kept (client.attemptConnection schedule sensor).2 := by
  rw [attemptConnection]
  split
  · exact ⟨rfl, rfl, rfl, rfl, rfl⟩
  · exact .absorb client _

variable {client} in
theorem Attended.attemptConnection (attended : client.Attended) (sensor : Descriptor) :
    (client.attemptConnection schedule sensor).2.Attended := by
  rcases attended with ⟨scene, working, received⟩
  rw [Client.attemptConnection, working]
  exact attended_absorb (client.connector.receiverAlive_connect schedule sensor received)

theorem passage_connect (index : Nat) :
    client.Passage schedule (.connect index) (client.meet schedule (.connect index)).1
      (client.meet schedule (.connect index)).2 := by
  rw [meet, Client.connect]
  by_cases state : client.state = .sensorFound
  · rw [if_neg (not_not_intro state)]
    cases listed : client.sensors[index]? with
    | none =>
        have unfit : ¬client.Accepts (.connect index) := by
          rintro ⟨_, within⟩
          exact absurd (List.getElem?_eq_none_iff.1 listed) (Nat.not_le_of_lt within)
        have refused : client.Passage schedule (.connect index) _ client := .refuse unfit
        rw [refusal, if_pos state] at refused
        exact refused
    | some sensor =>
        have kept := (client.transition .connecting).kept_attemptConnection schedule sensor
        have attended : (client.transition .connecting).Attended →
            ((client.transition .connecting).attemptConnection schedule sensor).2.Attended := by
          intro attended
          exact attended.attemptConnection schedule sensor
        simp only
        generalize (client.transition .connecting).attemptConnection schedule sensor = attempt
          at kept attended ⊢
        rcases attempt with ⟨attempts, later⟩
        simp only at kept attended ⊢
        cases attempts.result with
        | error last =>
            exact .failToConnect state (List.getElem?_eq_some_iff.1 listed).1 kept attended
        | ok handle => exact .connect state listed kept attended
  · rw [if_pos state]
    have unfit : ¬client.Accepts (.connect index) := fun accepted => state accepted.1
    have refused : client.Passage schedule (.connect index) _ client := .refuse unfit
    rw [refusal, if_neg state] at refused
    exact refused

theorem passage_stream :
    client.Passage schedule .stream (client.meet schedule .stream).1
      (client.meet schedule .stream).2 := by
  rw [meet, Client.stream]
  by_cases state : client.state = .connected
  · rw [if_neg (not_not_intro state)]
    simp only [scene?_transition]
    cases working : client.scene? with
    | none =>
        refine .failToStream state (.refl _) ?_ ?_
        · rintro ⟨scene, present, _⟩
          cases working.symm.trans present
        · rintro ⟨scene, present, _⟩
          cases working.symm.trans present
    | some scene =>
        simp only
        cases fits : deadlineFits (schedule.clock scene.tick)
            (client.transition .streaming).config.streamWindow with
        | false => exact .failToStream state (.refl _) id fun _ => ⟨rfl, scene.tick, fits⟩
        | true =>
            refine .stream state (.absorb _ _) ?_
            rintro ⟨first, present, received⟩
            cases working.symm.trans present
            apply attended_absorb
            exact @Surroundings.Keeps.collect _ _ _ (Scene.keeps_receiverAlive schedule) _ [] _
              received
  · rw [if_pos state]
    exact .refuse state

theorem passage_nextSample (timeout : Span) :
    client.Passage schedule (.nextSample timeout) (client.meet schedule (.nextSample timeout)).1
      (client.meet schedule (.nextSample timeout)).2 := by
  have passage : ∀ ready : Client Source,
      (client.state = .connected ∧ ready = client.transition .streaming ∨
        client.state = .streaming ∧ ready = client) →
      ready.scene? = client.scene? →
      (if client.state = .connected then client.transition .streaming else client) = ready →
      client.Passage schedule (.nextSample timeout)
        (client.meet schedule (.nextSample timeout)).1
        (client.meet schedule (.nextSample timeout)).2 := by
    intro ready state same proceeds
    have fit : ¬(client.state ≠ .connected ∧ client.state ≠ .streaming) := by
      rintro ⟨unconnected, unstreamed⟩
      exact state.elim (fun now => unconnected now.1) fun now => unstreamed now.1
    rw [meet, Client.nextSample, if_neg fit, proceeds]
    cases working : client.scene? with
    | none =>
        simp only [same, working]
        refine .nextSample state (.refl ready) ?_
        rintro ⟨scene, present, _⟩
        cases working.symm.trans present
    | some scene =>
        simp only [same, working]
        refine .nextSample state (.absorb ready _) ?_
        rintro ⟨first, present, received⟩
        cases working.symm.trans present
        apply attended_absorb
        exact @Surroundings.Keeps.receiveWithin _ _ _ (Scene.keeps_receiverAlive schedule) _ [] _
          received
  by_cases connected : client.state = .connected
  · exact passage _ (.inl ⟨connected, rfl⟩) rfl (if_pos connected)
  · by_cases streaming : client.state = .streaming
    · exact passage _ (.inr ⟨streaming, rfl⟩) rfl (if_neg connected)
    · have unready : ¬(client.state = .connected ∨ client.state = .streaming) :=
        fun ready => ready.elim connected streaming
      rw [meet, nextSample_refused schedule unready]
      exact .refuse unready

theorem shutdown_of_ongoing (ongoing : client.state ≠ .terminated) :
    ∃ later : Client Source, (client.shutdown schedule).2 = later.transition .terminated ∧
      (client.transition .shuttingDown).Kept later ∧ later.scene? = none := by
  rw [Client.shutdown, if_neg ongoing]
  cases working : client.scene? with
  | none =>
      have unemployed : client.worker = none := Option.map_eq_none_iff.1 working
      simp only [scene?_transition, working]
      exact ⟨_, rfl, ⟨rfl, rfl, rfl, rfl, rfl⟩, Option.map_eq_none_iff.2 unemployed⟩
  | some scene =>
      simp only [scene?_transition, working]
      exact ⟨_, rfl, ⟨rfl, rfl, rfl, rfl, rfl⟩, rfl⟩

/-- Every call is one of these. -/
theorem passage_meet (call : Call) :
    client.Passage schedule call (client.meet schedule call).1 (client.meet schedule call).2 := by
  cases call with
  | start => exact client.passage_start schedule
  | awaitDiscovery => exact client.passage_awaitDiscovery schedule
  | connect index => exact client.passage_connect schedule index
  | stream => exact client.passage_stream schedule
  | nextSample timeout => exact client.passage_nextSample schedule timeout
  | shutdown =>
      by_cases ongoing : client.state = .terminated
      · rw [meet, Client.shutdown, if_pos ongoing]
        exact .stayShutDown ongoing
      · rcases client.shutdown_of_ongoing schedule ongoing with ⟨later, done, kept, unattended⟩
        rw [meet, done]
        exact .shutDown ongoing kept unattended
  | drop =>
      by_cases ongoing : client.state = .terminated
      · rw [meet, Client.drop, Client.shutdown, if_pos ongoing]
        exact .stayDropped ongoing
      · rcases client.shutdown_of_ongoing schedule ongoing with ⟨later, done, kept, unattended⟩
        rw [meet, Client.drop, done]
        exact .drop ongoing kept unattended

namespace Passage

variable {schedule client} {call : Call} {reply : Except Mishap Reply} {later : Client Source}

theorem config_eq (passage : client.Passage schedule call reply later) :
    later.config = client.config := by
  cases passage with
  | refuse | stayShutDown | stayDropped => rfl
  | failToStart _ kept | start _ kept | failToDiscover _ kept | findNone _ kept => exact kept.config
  | find _ _ kept | connect _ _ kept | failToConnect _ _ kept => exact kept.config
  | stream _ kept | failToStream _ kept => exact kept.config
  | nextSample state kept => rcases state with ⟨_, rfl⟩ | ⟨_, rfl⟩ <;> exact kept.config
  | shutDown _ kept | drop _ kept => exact kept.config

theorem refused (passage : client.Passage schedule call reply later)
    (unfit : ¬client.Accepts call) :
    reply = .error (.error (client.refusal call)) ∧ later = client := by
  cases passage with
  | refuse => exact ⟨rfl, rfl⟩
  | failToStart state | start state => exact absurd state unfit
  | failToDiscover state | findNone state | find state => exact absurd state unfit
  | connect state listed =>
      exact absurd ⟨state, (List.getElem?_eq_some_iff.1 listed).1⟩ unfit
  | failToConnect state listed => exact absurd ⟨state, listed⟩ unfit
  | stream state | failToStream state => exact absurd state unfit
  | nextSample state => exact absurd (state.imp And.left And.left) unfit
  | shutDown | drop | stayShutDown | stayDropped => exact absurd trivial unfit

/-- A client that has found nothing yet is as it was before the call, unless that was a
start. -/
theorem kept_of_early (passage : client.Passage schedule call reply later)
    (early : later.state = .idle ∨ later.state = .discovering) :
    client.Kept later ∨ call = .start ∧ later.state = .discovering := by
  cases passage with
  | refuse | stayShutDown | stayDropped => exact .inl (.refl client)
  | failToStart _ kept | failToDiscover _ kept => exact .inl kept
  | start => exact .inr ⟨rfl, rfl⟩
  | stream _ kept | failToStream _ kept =>
      rw [kept.state] at early
      rcases early with early | early <;> cases early
  | nextSample state kept =>
      rcases state with ⟨_, rfl⟩ | ⟨_, rfl⟩
      · rw [kept.state] at early
        rcases early with early | early <;> cases early
      · exact .inl kept
  | findNone | find | connect | failToConnect | shutDown | drop =>
      rcases early with early | early <;> cases early

end Passage

/-- A request that does not fit hands out nothing and changes nothing. -/
theorem serve_of_unfit {request : Request} (unfit : ¬client.Accepts request.call) :
    client.serve schedule request = ([], client) := by
  have passage := client.passage_meet schedule request.call
  rw [← client.serve_eq_meet schedule] at passage
  refine Prod.ext ?_ (passage.refused unfit).2
  cases request with
  | awaitDiscovery | connect | shutdown => rfl
  | stream =>
      have elsewhere : client.state ≠ .connected := unfit
      rw [serve, Client.stream, if_pos elsewhere]
      rfl
  | nextSample timeout =>
      rw [serve, nextSample_refused schedule unfit]
      rfl

end Client

end SensorStream
