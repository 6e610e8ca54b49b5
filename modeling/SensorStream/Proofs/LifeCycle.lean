import SensorStream.Proofs.Passage

/-!
# The life cycle of a client

The states form a graph, and what a client goes through is a path in it.  A call that
does not fit the state is refused and leaves the client as it is.
-/

namespace SensorStream

/-! ## The graph of states -/

namespace ClientState

/-- A client may come from the one state to the other. -/
inductive Edge : ClientState → ClientState → Prop where
  | start : Edge .idle .discovering
  | find : Edge .discovering .sensorFound
  | findNone : Edge .discovering .noSensorFound
  | connect : Edge .sensorFound .connecting
  | succeed : Edge .connecting .connected
  | fail : Edge .connecting .connectFailed
  | stream : Edge .connected .streaming
  | shutDown {state : ClientState} (unbegun : state ≠ .shuttingDown)
      (ongoing : state ≠ .terminated) : Edge state .shuttingDown
  | terminate : Edge .shuttingDown .terminated

/-- The transitions lead from the first state to the last along the graph. -/
inductive Path (first : ClientState) : List Transition → ClientState → Prop where
  | here : Path first [] first
  | along {earlier : List Transition} {source target : ClientState} :
      Path first earlier source → Edge source target →
      Path first (earlier ++ [⟨source, target⟩]) target

/-- From the start of discovery to the end of streaming. -/
def isUnderway : ClientState → Bool
  | idle => false
  | shuttingDown => false
  | terminated => false
  | _ => true

/-- The states of a client that has found sensors and has not given up. -/
def hasSensors : ClientState → Bool
  | sensorFound => true
  | connecting => true
  | connected => true
  | streaming => true
  | _ => false

/-- The states before a connection is made. -/
def isUnconnected : ClientState → Bool
  | idle => true
  | discovering => true
  | sensorFound => true
  | noSensorFound => true
  | connecting => true
  | connectFailed => true
  | _ => false

/-- The states of a client that has a connection to take samples from. -/
def isLinked : ClientState → Bool
  | connected => true
  | streaming => true
  | _ => false

/-- The states that a client is in only while a call lasts. -/
def isPassing : ClientState → Bool
  | connecting => true
  | shuttingDown => true
  | _ => false

/-- A path that has come to the end of a discovery without sensors goes on to nothing but
the shutdown. -/
theorem Path.state_of_mem {trail : List Transition} {state : ClientState}
    (path : Path .idle trail state) (visited : ⟨.discovering, .noSensorFound⟩ ∈ trail) :
    state = .noSensorFound ∨ state = .shuttingDown ∨ state = .terminated := by
  induction path with
  | here => cases visited
  | along _ edge ih =>
      rcases List.mem_append.1 visited with earlier | now
      · rcases ih earlier with rfl | rfl | rfl <;> cases edge <;> simp
      · cases List.mem_singleton.1 now
        exact .inl rfl

theorem isLinked_of_isUnconnected {state : ClientState} (unconnected : state.isUnconnected = true) :
    state.isLinked = false := by
  cases state with
  | connected => cases unconnected
  | streaming => cases unconnected
  | _ => rfl

end ClientState

namespace Client.Passage

variable {Source : Type} [EventSource Source] {schedule : Schedule Source} {client : Client Source}
  {call : Call} {reply : Except Mishap Reply} {later : Client Source}

theorem settled (passage : client.Passage schedule call reply later)
    (settled : client.state.isPassing = false) : later.state.isPassing = false := by
  cases passage with
  | refuse | stayShutDown | stayDropped => exact settled
  | failToStart _ kept | failToDiscover _ kept =>
      exact (congrArg ClientState.isPassing kept.state).trans settled
  | stream _ kept | failToStream _ kept => exact congrArg ClientState.isPassing kept.state
  | nextSample state kept =>
      rcases state with ⟨_, rfl⟩ | ⟨_, rfl⟩
      · exact congrArg ClientState.isPassing kept.state
      · exact (congrArg ClientState.isPassing kept.state).trans settled
  | start | findNone | find | connect | failToConnect | shutDown | drop => rfl

/-- A call breaks off only where a deadline does not fit. -/
theorem ne_deadlineOverflow (passage : client.Passage schedule call reply later)
    (attended : client.state.isUnderway = true → client.Attended)
    (discovers : ∀ tick,
      deadlineFits (schedule.clock tick) client.config.discoveryTimeout = true)
    (streams : ∀ tick, deadlineFits (schedule.clock tick) client.config.streamWindow = true) :
    reply ≠ .error .deadlineOverflow := by
  intro broken
  cases passage with
  | failToDiscover _ _ _ overflow =>
      cases broken
      cases (discovers _).symm.trans (overflow rfl)
  | failToStream state _ _ reason =>
      rcases reason (attended (state ▸ rfl)) with ⟨_, tick, unfit⟩
      cases (streams tick).symm.trans unfit
  | @nextSample _ result =>
      cases result <;> cases broken
  | _ => cases broken

/-- A client that is connected and has somebody to stream from does stream. -/
theorem streams (passage : client.Passage schedule .stream reply later)
    (connected : client.state = .connected) (attended : client.Attended)
    (streams : ∀ tick, deadlineFits (schedule.clock tick) client.config.streamWindow = true) :
    ∃ observation : Observation, reply = .ok (.observed observation) ∧
      (client.transition .streaming).Kept later := by
  cases passage with
  | refuse unfit => exact absurd connected unfit
  | stream _ kept => exact ⟨_, rfl, kept⟩
  | failToStream _ _ _ reason =>
      rcases reason attended with ⟨_, tick, unfit⟩
      cases (streams tick).symm.trans unfit

end Client.Passage

/-! ## A client's life -/

/-- A client and what its caller was told so far. -/
structure Life (Source : Type) where
  client : Client Source
  replies : List (Except Mishap Reply)

namespace Life

variable {Source : Type}

/-- The client was just made. -/
def begin (config : Config) (source : Source) : Life Source :=
  ⟨.new config source, []⟩

/-- What is true of a client whatever its caller calls, also while a call lasts. -/
structure Orderly (life : Life Source) : Prop where
  /-- The transitions so far lead along the graph to the state that the client is in. -/
  path : ClientState.Path .idle life.client.trail life.client.state
  attended : life.client.state.isUnderway = true → life.client.Attended
  unattended : life.client.state = .terminated → life.client.scene? = none
  found : life.client.state.hasSensors = true → life.client.sensors ≠ []
  unconnected : life.client.state.isUnconnected = true → life.client.connection = none
  linked : life.client.state.isLinked = true → life.client.connection.isSome = true
  /-- The client has the connection that a call to connect has brought, and no other. -/
  connected : ∀ handle : Handle, .ok (.connected handle) ∈ life.replies ↔
    ∃ sensor : Descriptor, life.client.connection = some (sensor, handle)

theorem Orderly.begin (config : Config) (source : Source) : (begin config source).Orderly where
  path := .here
  attended := Bool.noConfusion
  unattended := ClientState.noConfusion
  found := Bool.noConfusion
  unconnected := fun _ => rfl
  linked := Bool.noConfusion
  connected := by
    intro handle
    simp [Life.begin, Client.new]

variable [EventSource Source]

/-- The dispatcher may act while the caller does something else. -/
def between (schedule : Schedule Source) (life : Life Source) : Life Source :=
  { life with client := life.client.between schedule }

/-- The caller makes a call. -/
def meet (schedule : Schedule Source) (life : Life Source) (call : Call) : Life Source :=
  ⟨(life.client.meet schedule call).2, life.replies ++ [(life.client.meet schedule call).1]⟩

/-- What a client that was just made comes to, whatever its caller calls. -/
inductive Reachable (schedule : Schedule Source) (config : Config) (source : Source) :
    Life Source → Prop where
  | begin : Reachable schedule config source (begin config source)
  | between {life : Life Source} (earlier : Reachable schedule config source life) :
      Reachable schedule config source (life.between schedule)
  | meet {life : Life Source} (earlier : Reachable schedule config source life) (call : Call) :
      Reachable schedule config source (life.meet schedule call)

namespace Orderly

section Parts

omit [EventSource Source]

variable {client : Client Source} {replies : List (Except Mishap Reply)}

theorem kept (orderly : (Life.mk client replies).Orderly) {later : Client Source}
    (kept : client.Kept later)
    (attended : client.state.isUnderway = true → client.Attended → later.Attended)
    (unattended : client.state = .terminated → later.scene? = none) :
    (Life.mk later replies).Orderly where
  path := by
    rw [kept.state, kept.trail]
    exact orderly.path
  attended := by
    rw [kept.state]
    exact fun underway => attended underway (orderly.attended underway)
  unattended := by
    rw [kept.state]
    exact unattended
  found := by
    rw [kept.state, kept.sensors]
    exact orderly.found
  unconnected := by
    rw [kept.state, kept.connection]
    exact orderly.unconnected
  linked := by
    rw [kept.state, kept.connection]
    exact orderly.linked
  connected := by
    rw [kept.connection]
    exact orderly.connected

theorem proceeding (orderly : (Life.mk client replies).Orderly) {later : Client Source}
    {state : ClientState} (now : client.state = state) (ongoing : state ≠ .terminated)
    (kept : client.Kept later) (attended : client.Attended → later.Attended) :
    (Life.mk later replies).Orderly :=
  orderly.kept kept (fun _ => attended) fun terminated =>
    absurd (now.symm.trans terminated) ongoing

theorem transition (orderly : (Life.mk client replies).Orderly) {target : ClientState}
    (edge : client.state.Edge target) (attended : target.isUnderway = true → client.Attended)
    (unattended : target = .terminated → client.scene? = none)
    (found : target.hasSensors = true → client.sensors ≠ [])
    (unconnected : target.isUnconnected = true → client.state.isUnconnected = true)
    (linked : target.isLinked = true → client.state.isLinked = true) :
    (Life.mk (client.transition target) replies).Orderly where
  path := .along orderly.path edge
  attended := attended
  unattended := unattended
  found := found
  unconnected := fun before => orderly.unconnected (unconnected before)
  linked := fun after => orderly.linked (linked after)
  connected := orderly.connected

theorem replied (orderly : (Life.mk client replies).Orderly) {reply : Except Mishap Reply}
    (unrelated : ∀ handle : Handle, reply ≠ .ok (.connected handle)) :
    (Life.mk client (replies ++ [reply])).Orderly where
  path := orderly.path
  attended := orderly.attended
  unattended := orderly.unattended
  found := orderly.found
  unconnected := orderly.unconnected
  linked := orderly.linked
  connected := by
    intro handle
    rw [← orderly.connected]
    simp [Ne.symm (unrelated handle)]

theorem starting (orderly : (Life.mk client replies).Orderly) (state : client.state = .idle)
    (attended : client.Attended) :
    (Life.mk (client.transition .discovering) replies).Orderly := by
  refine orderly.transition ?_ (fun _ => attended) nofun nofun ?_ nofun
  · exact state ▸ .start
  · exact fun _ => state ▸ rfl

/-- The client ends discovery and keeps the sensors that it has found. -/
theorem concluding (orderly : (Life.mk client replies).Orderly)
    (state : client.state = .discovering) {sensors : List Descriptor} {target : ClientState}
    (edge : ClientState.discovering.Edge target) (unconnected : target.isUnconnected = true)
    (found : target.hasSensors = true → sensors ≠ []) :
    (Life.mk ({ client with sensors := sensors }.transition target) replies).Orderly where
  path := .along orderly.path (state ▸ edge)
  attended := fun _ => orderly.attended (state ▸ rfl)
  unattended := by
    rintro rfl
    cases unconnected
  found := found
  unconnected := fun _ => orderly.unconnected (state ▸ rfl)
  linked := by
    intro linked
    cases (ClientState.isLinked_of_isUnconnected unconnected).symm.trans linked
  connected := orderly.connected

theorem connecting (orderly : (Life.mk client replies).Orderly)
    (state : client.state = .sensorFound) :
    (Life.mk (client.transition .connecting) replies).Orderly := by
  refine orderly.transition (state ▸ .connect) ?_ nofun ?_ ?_ nofun
  · exact fun _ => orderly.attended (state ▸ rfl)
  · exact fun _ => orderly.found (state ▸ rfl)
  · exact fun _ => state ▸ rfl

theorem failing (orderly : (Life.mk client replies).Orderly)
    (state : client.state = .connecting) :
    (Life.mk (client.transition .connectFailed) replies).Orderly := by
  refine orderly.transition (state ▸ .fail) ?_ nofun nofun ?_ nofun
  · exact fun _ => orderly.attended (state ▸ rfl)
  · exact fun _ => state ▸ rfl

theorem succeeding (orderly : (Life.mk client replies).Orderly)
    (state : client.state = .connecting) (sensor : Descriptor) (handle : Handle) :
    (Life.mk ({ client with connection := some (sensor, handle) }.transition .connected)
      (replies ++ [.ok (.connected handle)])).Orderly where
  path := .along orderly.path (state ▸ .succeed)
  attended := fun _ => orderly.attended (state ▸ rfl)
  unattended := ClientState.noConfusion
  found := fun _ => orderly.found (state ▸ rfl)
  unconnected := Bool.noConfusion
  linked := fun _ => rfl
  connected := by
    intro other
    -- There was no connection before, so no call to connect had succeeded.
    have unconnected : client.connection = none := orderly.unconnected (state ▸ rfl)
    have before := orderly.connected other
    rw [List.mem_append, before]
    simp [Client.transition, unconnected, eq_comm]

theorem streaming (orderly : (Life.mk client replies).Orderly) (state : client.state = .connected) :
    (Life.mk (client.transition .streaming) replies).Orderly := by
  refine orderly.transition (state ▸ .stream) ?_ ClientState.noConfusion ?_ Bool.noConfusion ?_
  · exact fun _ => orderly.attended (state ▸ rfl)
  · exact fun _ => orderly.found (state ▸ rfl)
  · exact fun _ => state ▸ rfl

theorem shuttingDown (orderly : (Life.mk client replies).Orderly) {later : Client Source}
    (settled : client.state.isPassing = false) (ongoing : client.state ≠ .terminated)
    (kept : (client.transition .shuttingDown).Kept later) (unattended : later.scene? = none) :
    (Life.mk (later.transition .terminated) replies).Orderly := by
  have unbegun : client.state ≠ .shuttingDown := by
    intro begun
    rw [begun] at settled
    cases settled
  have begun : (Life.mk (client.transition .shuttingDown) replies).Orderly :=
    orderly.transition (.shutDown unbegun ongoing) Bool.noConfusion ClientState.noConfusion
      Bool.noConfusion Bool.noConfusion Bool.noConfusion
  have stopped : (Life.mk later replies).Orderly :=
    begun.kept kept Bool.noConfusion fun _ => unattended
  exact stopped.transition (kept.state ▸ .terminate) Bool.noConfusion (fun _ => unattended)
    Bool.noConfusion Bool.noConfusion Bool.noConfusion

end Parts

variable {schedule : Schedule Source} {life : Life Source}

theorem between (orderly : life.Orderly) : (life.between schedule).Orderly := by
  refine orderly.kept (life.client.kept_between schedule)
    (fun _ => Client.Attended.between schedule) ?_
  intro terminated
  have unattended := orderly.unattended terminated
  rw [Client.between, unattended]
  exact unattended

/-- Every call leaves everything in order. -/
theorem meet (orderly : life.Orderly) (settled : life.client.state.isPassing = false)
    (call : Call) : (life.meet schedule call).Orderly := by
  rcases life with ⟨client, replies⟩
  have passage := client.passage_meet schedule call
  rw [Life.meet]
  generalize client.meet schedule call = met at passage ⊢
  rcases met with ⟨reply, later⟩
  simp only at passage orderly settled ⊢
  cases passage with
  | refuse unfit => exact orderly.replied nofun
  | failToStart state kept attended =>
      exact (orderly.proceeding state nofun kept fun _ => attended).replied nofun
  | start state kept attended =>
      have employed := orderly.proceeding state nofun kept fun _ => attended
      exact (employed.starting (kept.state.trans state) attended).replied nofun
  | failToDiscover state kept attended overflow =>
      exact (orderly.proceeding state nofun kept attended).replied nofun
  | findNone state kept attended =>
      have waited := orderly.proceeding state nofun kept attended
      exact (waited.concluding (kept.state.trans state) .findNone rfl nofun).replied nofun
  | find state found kept attended =>
      have waited := orderly.proceeding state nofun kept attended
      exact (waited.concluding (kept.state.trans state) .find rfl fun _ => found).replied nofun
  | connect state listed kept attended =>
      have tried := (orderly.connecting state).proceeding rfl nofun kept attended
      exact tried.succeeding kept.state _ _
  | failToConnect state listed kept attended =>
      have tried := (orderly.connecting state).proceeding rfl nofun kept attended
      exact (tried.failing kept.state).replied nofun
  | stream state kept attended =>
      exact ((orderly.streaming state).proceeding rfl nofun kept attended).replied nofun
  | failToStream state kept attended reason =>
      exact ((orderly.streaming state).proceeding rfl nofun kept attended).replied nofun
  | @nextSample timeout result ready next state kept attended =>
      have unrelated : ∀ handle : Handle,
          (result.mapError Mishap.error).map Reply.handed ≠ .ok (.connected handle) := by
        intro handle
        cases result <;> nofun
      rcases state with ⟨state, rfl⟩ | ⟨state, rfl⟩
      · exact ((orderly.streaming state).proceeding rfl nofun kept attended).replied unrelated
      · exact (orderly.proceeding state nofun kept attended).replied unrelated
  | shutDown ongoing kept unattended =>
      exact (orderly.shuttingDown settled ongoing kept unattended).replied nofun
  | drop ongoing kept unattended =>
      exact (orderly.shuttingDown settled ongoing kept unattended).replied nofun
  | stayShutDown terminated => exact orderly.replied nofun
  | stayDropped terminated => exact orderly.replied nofun

end Orderly

namespace Reachable

variable {schedule : Schedule Source} {config : Config} {source : Source} {life : Life Source}

theorem config_eq (reachable : Reachable schedule config source life) :
    life.client.config = config.sanitized := by
  induction reachable with
  | begin => rfl
  | @between life _ ih => exact (life.client.kept_between schedule).config.trans ih
  | @meet life _ call ih => exact (life.client.passage_meet schedule call).config_eq.trans ih

theorem settled (reachable : Reachable schedule config source life) :
    life.client.state.isPassing = false := by
  induction reachable with
  | begin => rfl
  | @between life _ ih =>
      have kept := life.client.kept_between schedule
      exact (congrArg ClientState.isPassing kept.state).trans ih
  | @meet life _ call ih => exact (life.client.passage_meet schedule call).settled ih

theorem orderly (reachable : Reachable schedule config source life) : life.Orderly := by
  induction reachable with
  | begin => exact .begin config source
  | between _ ih => exact ih.between
  | meet earlier call ih => exact ih.meet earlier.settled call

theorem timely (reachable : Reachable schedule config source life)
    (discovers : ∀ tick, deadlineFits (schedule.clock tick) config.discoveryTimeout = true)
    (streams : ∀ tick, deadlineFits (schedule.clock tick) config.streamWindow = true) :
    .error .deadlineOverflow ∉ life.replies := by
  induction reachable with
  | begin => exact List.not_mem_nil
  | between _ ih => exact ih
  | @meet life earlier call ih =>
      have fits : life.client.config.discoveryTimeout = config.discoveryTimeout ∧
          life.client.config.streamWindow = config.streamWindow := by
        rw [earlier.config_eq]
        exact ⟨rfl, rfl⟩
      have timely := (life.client.passage_meet schedule call).ne_deadlineOverflow
        earlier.orderly.attended (fits.1 ▸ discovers) (fits.2 ▸ streams)
      rw [Life.meet, List.mem_append, List.mem_singleton]
      exact fun broken => broken.elim ih fun last => timely last.symm

end Reachable

/-- What holds of a client between two calls, and of the next call. -/
structure Lawful (schedule : Schedule Source) (life : Life Source) : Prop where
  orderly : life.Orderly
  settled : life.client.state.isPassing = false
  timely : .error .deadlineOverflow ∉ life.replies
  /-- A call that does not fit changes nothing at all. -/
  refused : ∀ call : Call, ¬life.client.Accepts call →
    life.client.meet schedule call = (.error (.error (life.client.refusal call)), life.client)
  streams : life.client.state = .connected → ∃ observation : Observation,
    (life.client.meet schedule .stream).1 = .ok (.observed observation)

/-- Whatever a caller calls, in whatever order, and whatever the source does, the client
goes along the graph of states and has in each state what it needs there; calls that do not
fit are refused, and no others fail for want of a dispatcher or of a channel. -/
theorem lawful_of_reachable {schedule : Schedule Source} {config : Config} {source : Source}
    {life : Life Source} (reachable : Reachable schedule config source life)
    (discovers : ∀ tick, deadlineFits (schedule.clock tick) config.discoveryTimeout = true)
    (streams : ∀ tick, deadlineFits (schedule.clock tick) config.streamWindow = true) :
    life.Lawful schedule where
  orderly := reachable.orderly
  settled := reachable.settled
  timely := reachable.timely discovers streams
  refused := by
    intro call unfit
    have refused := (life.client.passage_meet schedule call).refused unfit
    exact Prod.ext refused.1 refused.2
  streams := by
    intro connected
    have passage := life.client.passage_meet schedule .stream
    have attended := reachable.orderly.attended (connected ▸ rfl)
    rcases passage.streams connected attended (reachable.config_eq ▸ streams) with
        ⟨observation, streamed, _⟩
    exact ⟨observation, streamed⟩

/-- A source that refuses to list at first, and then lists one sensor. -/
def hesitant : Script :=
  .ofResults
    [.error .sourceClosed,
      .ok [.event (.found ⟨"LPMS", "a", .simulated, "sim"⟩), .event (.progress 1)]]
    [.error .refused, .ok (⟨1⟩, [])]

/-- Such a life leads from a second start to streaming, past a call that does not fit. -/
theorem lawful_of_hesitant_start :
    ∃ life : Life Script, Reachable .patient .default hesitant life ∧
      life.client.trail =
        [⟨.idle, .discovering⟩, ⟨.discovering, .sensorFound⟩, ⟨.sensorFound, .connecting⟩,
          ⟨.connecting, .connected⟩, ⟨.connected, .streaming⟩] ∧
      life.Lawful .patient := by
  have reachable : Reachable .patient .default hesitant _ :=
    .meet (.meet (.meet (.meet (.meet (.meet .begin .start) .start) .stream) .awaitDiscovery)
      (.connect 0)) .stream
  have discovers : deadlineFits 1000000000 Config.default.discoveryTimeout = true := by
    decide +kernel
  have streams : deadlineFits 1000000000 Config.default.streamWindow = true := by
    decide +kernel
  refine ⟨_, reachable, ?_, lawful_of_reachable reachable (fun _ => discovers) fun _ => streams⟩
  decide +kernel

end Life

end SensorStream
