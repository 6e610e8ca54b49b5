import SensorStream.Proofs.Conservation
import SensorStream.Proofs.DiscoveryRace
import SensorStream.Proofs.Passage
import SensorStream.Proofs.Replacement

/-!
# Starts that fail

A start employs a dispatcher before it asks the source to list.  When the source refuses,
the client is back where it was, but the dispatcher stays: it goes on taking events until
the next start has put another one in its place.  What it made of them is lost with it, except
for the tracker, which all dispatchers of a client share.

A `Trial` is a client that may be started any number of times, while events become
available at any moment.  Its log says by the dispatcher of which start an event was taken.
-/

namespace SensorStream

/-! ## Clients that are started more than once -/

/-- A client, how often it was started, which dispatcher took which event, and the samples that
its caller was handed since the last start. -/
structure Trial (Source : Type) where
  client : Client (Journal Source)
  number : Nat
  log : List (Nat × Event)
  handed : List StreamedSample

namespace Trial

variable {Source : Type}

/-- The client was just made. -/
def begin (config : Config) (source : Source) : Trial Source :=
  ⟨.new config (.start source), 0, [], []⟩

/-- The source becomes another one, for instance because events become available. -/
def feed (trial : Trial Source) (change : Source → Source) : Trial Source :=
  { trial with client := trial.client.updateSource fun journal => journal.update change }

/-- What the dispatcher of the last start took. -/
def kept (trial : Trial Source) : List Event :=
  entriesOf trial.number trial.log

/-- What the dispatchers of the earlier starts took. -/
def lost (trial : Trial Source) : List Event :=
  entriesBut trial.number trial.log

/-- The samples that were handed out or still can be. -/
def stream (trial : Trial Source) : List StreamedSample :=
  trial.handed ++ match trial.client.worker with
    | some dispatcher => dispatcher.sink.pending ++ dispatcher.held?.toList
    | none => []

/-- The client has become another one while the dispatcher of the last start was the only one at
work. -/
def become (trial : Trial Source) (client : Client (Journal Source))
    (handed : List StreamedSample) : Trial Source :=
  { trial with
    client := client
    log := trial.log ++ entered trial.number (trial.client.source.since client.source)
    handed := trial.handed ++ handed }

@[simp] theorem become_self (trial : Trial Source) : trial.become trial.client [] = trial := by
  simp [become]

variable [EventSource Source]

/-- The dispatcher may act while the caller does something else. -/
def between (schedule : Schedule (Journal Source)) (trial : Trial Source) : Trial Source :=
  trial.become (trial.client.between schedule) []

/-- Employ the dispatcher of the next start.  That of the last one takes events until it is
replaced, and its channel goes with it. -/
def employ (schedule : Schedule (Journal Source)) (trial : Trial Source) : Trial Source where
  client := trial.client.employWorker schedule
  number := trial.number + 1
  log := trial.log ++ match trial.client.worker with
    | none => []
    | some earlier =>
        schedule.exchange trial.client.tick trial.number (trial.client.succession earlier)
  handed := []

/-- Make an attempt to start. -/
def start (schedule : Schedule (Journal Source)) (trial : Trial Source) : Trial Source :=
  (trial.employ schedule).become (trial.client.start schedule).2 []

/-- The client meets another request. -/
def serve (schedule : Schedule (Journal Source)) (trial : Trial Source) (request : Request) :
    Trial Source :=
  trial.become (trial.client.serve schedule request).2 (trial.client.serve schedule request).1

/-- What a client comes to until it is shut down, whatever its caller asks for, and whatever
becomes available at whatever moment. -/
inductive Reachable (schedule : Schedule (Journal Source)) (config : Config) (source : Source) :
    Trial Source → Prop where
  | begin : Reachable schedule config source (begin config source)
  | feed {trial : Trial Source} (earlier : Reachable schedule config source trial)
      (change : Source → Source) : Reachable schedule config source (trial.feed change)
  | between {trial : Trial Source} (earlier : Reachable schedule config source trial) :
      Reachable schedule config source (trial.between schedule)
  | start {trial : Trial Source} (earlier : Reachable schedule config source trial)
      (idle : trial.client.state = .idle) :
      Reachable schedule config source (trial.start schedule)
  | serve {trial : Trial Source} (earlier : Reachable schedule config source trial)
      {request : Request} (goesOn : request ≠ .shutdown) :
      Reachable schedule config source (trial.serve schedule request)

/-- Before the first start nothing was taken; from then on a dispatcher serves the caller. -/
inductive Faithful (schedule : Schedule (Journal Source)) (every : UInt64)
    (trial : Trial Source) : Prop where
  | unstarted (unattended : trial.client.scene? = none) (idle : trial.client.state = .idle)
      (number : trial.number = 0) (log : trial.log = [])
      (taken : trial.client.source.taken = []) (tracker : trial.client.tracker = .fresh)
  | attended {scene : Scene (Journal Source)} (working : trial.client.scene? = some scene)
      (resuming : Resuming schedule every trial.number trial.log trial.handed scene.pipeline)

namespace Faithful

variable {schedule : Schedule (Journal Source)} {every : UInt64} {trial : Trial Source}

theorem begin (schedule : Schedule (Journal Source)) (config : Config) (source : Source) :
    (begin config source).Faithful schedule config.downsampleEvery :=
  .unstarted rfl rfl rfl rfl rfl rfl

theorem feed (faithful : trial.Faithful schedule every) (change : Source → Source) :
    (trial.feed change).Faithful schedule every := by
  cases faithful with
  | unstarted unattended idle number log taken tracker =>
      have unemployed : trial.client.worker = none := Option.map_eq_none_iff.1 unattended
      exact .unstarted (Option.map_eq_none_iff.2 unemployed) idle number log taken tracker
  | attended working resuming =>
      rcases Option.map_eq_some_iff.1 working with ⟨dispatcher, employed, rfl⟩
      have fed := resuming.source (Journal.taken_update _ change)
      exact .attended (congrArg (Option.map _) employed) fed

/-- What the one dispatcher and the caller make of a client. -/
theorem become {scene later : Scene (Journal Source)} (working : trial.client.scene? = some scene)
    (resuming : Resuming schedule every trial.number trial.log trial.handed scene.pipeline)
    {client : Client (Journal Source)} {handed : List StreamedSample}
    (still : client.scene? = some later)
    (grown : ∃ arrived : List Event, Resuming schedule every trial.number
      (trial.log ++ entered trial.number arrived) (trial.handed ++ handed) later.pipeline) :
    (trial.become client handed).Faithful schedule every := by
  rcases Option.map_eq_some_iff.1 working with ⟨dispatcher, _, rfl⟩
  rcases Option.map_eq_some_iff.1 still with ⟨same, present, rfl⟩
  exact .attended (congrArg (Option.map _) present) (Resuming.of_grown resuming.books.taken grown)

theorem between (faithful : trial.Faithful schedule every) :
    (trial.between schedule).Faithful schedule every := by
  cases faithful with
  | unstarted unattended idle number log taken tracker =>
      have unchanged : trial.client.between schedule = trial.client := by
        rw [Client.between, unattended]
      rw [Trial.between, unchanged, become_self]
      exact .unstarted unattended idle number log taken tracker
  | @attended scene working resuming =>
      have acted : (trial.client.between schedule).scene? = some (scene.between schedule) := by
        rw [Client.between, working]
        rfl
      refine .become working resuming acted ?_
      rw [List.append_nil]
      exact ((Resuming.upheld schedule every _ _).lasting _).moves (scene.moves_between schedule)
        resuming.stay

/-- The dispatcher of the next start is the first one, or takes the place of another. -/
theorem employ (faithful : trial.Faithful schedule every)
    (settings : trial.client.config.downsampleEvery = every) :
    ∃ scene : Scene (Journal Source), (trial.employ schedule).client.scene? = some scene ∧
      Resuming schedule every (trial.number + 1) (trial.employ schedule).log [] scene.pipeline := by
  rw [Trial.employ, Client.employWorker]
  cases faithful with
  | unstarted unattended idle number log taken tracker =>
      have unemployed : trial.client.worker = none := Option.map_eq_none_iff.1 unattended
      simp only [unemployed, log, number]
      refine ⟨_, rfl, ?_⟩
      rw [Client.freshWorker, settings, tracker]
      exact .spawn schedule every _ taken
  | attended working resuming =>
      rcases Option.map_eq_some_iff.1 working with ⟨earlier, employed, rfl⟩
      simp only [employed]
      refine ⟨_, rfl, ?_⟩
      rw [Client.succession, Client.freshWorker, settings]
      exact resuming.replace _ trial.client.tick

theorem start (faithful : trial.Faithful schedule every)
    (settings : trial.client.config.downsampleEvery = every)
    (idle : trial.client.state = .idle) : (trial.start schedule).Faithful schedule every := by
  rcases faithful.employ settings with ⟨scene, employed, resuming⟩
  have lasting := (Resuming.upheld schedule every (trial.number + 1)
    (trial.employ schedule).log).lasting []
  rcases Client.working_start lasting schedule idle employed resuming.stay with
    ⟨later, working, grown⟩
  exact .become employed resuming working grown

theorem serve (faithful : trial.Faithful schedule every) {request : Request}
    (goesOn : request ≠ .shutdown) : (trial.serve schedule request).Faithful schedule every := by
  cases faithful with
  | unstarted unattended idle number log taken tracker =>
      have unfit : ¬trial.client.Accepts request.call := by
        cases request with
        | shutdown => exact absurd rfl goesOn
        | _ => simp [Client.Accepts, Request.call, idle]
      rw [Trial.serve, trial.client.serve_of_unfit schedule unfit, become_self]
      exact .unstarted unattended idle number log taken tracker
  | attended working resuming =>
      have upheld := Resuming.upheld schedule every trial.number trial.log
      rcases Client.serve_upheld upheld schedule working resuming.stay goesOn with
        ⟨later, still, grown⟩
      exact .become working resuming still grown

end Faithful

namespace Reachable

variable {schedule : Schedule (Journal Source)} {config : Config} {source : Source}
  {trial : Trial Source}

theorem config_eq (reachable : Reachable schedule config source trial) :
    trial.client.config = config.sanitized := by
  induction reachable with
  | begin => rfl
  | feed _ _ ih => exact ih
  | @between trial _ ih => exact (trial.client.kept_between schedule).config.trans ih
  | @start trial _ _ ih => exact (trial.client.passage_start schedule).config_eq.trans ih
  | @serve trial _ request _ ih =>
      have passage := trial.client.passage_meet schedule request.call
      rw [← trial.client.serve_eq_meet schedule] at passage
      exact passage.config_eq.trans ih

theorem faithful (reachable : Reachable schedule config source trial) :
    trial.Faithful schedule config.downsampleEvery := by
  induction reachable with
  | begin => exact .begin schedule config source
  | feed _ change ih => exact ih.feed change
  | between _ ih => exact ih.between
  | start earlier idle ih =>
      refine ih.start ?_ idle
      rw [earlier.config_eq]
      rfl
  | serve _ goesOn ih => exact ih.serve goesOn

/-- An idle client is as it was made, whatever became of its dispatchers. -/
theorem kept_of_idle (reachable : Reachable schedule config source trial)
    (idle : trial.client.state = .idle) :
    (Client.new config (.start source)).Kept trial.client := by
  induction reachable with
  | begin => exact .refl _
  | feed _ _ ih =>
      rcases ih idle with ⟨config, state, trail, sensors, connection⟩
      exact ⟨config, state, trail, sensors, connection⟩
  | @between trial _ ih =>
      have kept := trial.client.kept_between schedule
      exact (ih (kept.state.symm.trans idle)).trans kept
  | @start trial _ _ ih =>
      rcases (trial.client.passage_start schedule).kept_of_early (.inl idle) with kept | ⟨_, began⟩
      · exact (ih (kept.state.symm.trans idle)).trans kept
      · cases idle.symm.trans began
  | @serve trial _ request _ ih =>
      have passage := trial.client.passage_meet schedule request.call
      rw [← trial.client.serve_eq_meet schedule] at passage
      rcases passage.kept_of_early (.inl idle) with kept | ⟨_, began⟩
      · exact (ih (kept.state.symm.trans idle)).trans kept
      · cases idle.symm.trans began

end Reachable

/-! ## What survives a failed start -/

/-- What the client has made of the events when the dispatcher of the last start rests. -/
structure Balance (schedule : Schedule (Journal Source)) (every : UInt64)
    (trial : Trial Source) (dispatcher : Dispatcher) : Prop where
  /-- The tracker has heard from the dispatchers of all starts. -/
  books : Books trial.log trial.client.source.taken trial.client.tracker fun _ => []
  /-- Unless two were at work at the same time, it has heard of the events in order. -/
  tidy : schedule.Successive → trial.client.tracker =
    (noticesIn trial.client.source.taken).foldl Tracker.record .fresh
  /-- The counters know the events of the last start alone. -/
  systemEvents : dispatcher.stats.systemEvents = (noticesIn trial.kept).length
  received : dispatcher.stats.received = (measurementsIn trial.kept).length
  balance : dispatcher.stats.received =
    dispatcher.stats.forwarded + dispatcher.stats.suppressed +
      if dispatcher.held?.isSome then 1 else 0
  dropped : dispatcher.stats.dropped = 0
  /-- So does the stream. -/
  stream : trial.stream = (DownSampler.fresh every).passed (measurementsIn trial.kept)

/-- How far a client is behind another one that has taken the same events with the first
dispatcher that it had. -/
structure Shortfall (schedule : Schedule (Journal Source)) (trial fresh : Trial Source) :
    Prop where
  complete : trial.client.tracker.complete = fresh.client.tracker.complete
  /-- The trackers are the same unless the tracker heard from two dispatchers at once. -/
  tracker : noticesIn trial.lost = [] ∨ schedule.Successive →
    trial.client.tracker = fresh.client.tracker
  systemEvents : trial.client.stats.systemEvents + (noticesIn trial.lost).length =
    fresh.client.stats.systemEvents
  received : trial.client.stats.received + (measurementsIn trial.lost).length =
    fresh.client.stats.received
  /-- The streams are the same unless a measurement was lost. -/
  stream : measurementsIn trial.lost = [] → trial.stream = fresh.stream

/-- What is true of a client that may be started more than once. -/
structure Survival (schedule : Schedule (Journal Source)) (config : Config) (source : Source)
    (trial : Trial Source) : Prop where
  /-- As long as no start was successful, all but the dispatcher's part is as it was. -/
  idle : trial.client.state = .idle → (Client.new config (.start source)).Kept trial.client
  /-- A start that fails leaves a dispatcher that nobody has asked to stop. -/
  failed : trial.client.state = .idle → ∀ error : ClientError,
    (trial.client.start schedule).1 = .error error →
    trial.client.Kept (trial.client.start schedule).2 ∧
      ∃ dispatcher : Dispatcher, (trial.client.start schedule).2.worker = some dispatcher ∧
        dispatcher.stopRequested = false ∧ dispatcher.sink.receiverAlive = true
  balance : ∀ dispatcher : Dispatcher, trial.client.worker = some dispatcher →
    dispatcher.Resting → trial.Balance schedule config.downsampleEvery dispatcher
  /-- Compared with a client of which no dispatcher was replaced that had taken an event, events
  are missing. -/
  shortfall : ∀ (other : Schedule (Journal Source)) (origin : Source) (fresh : Trial Source)
    (first last : Dispatcher), Reachable other config origin fresh → fresh.lost = [] →
    fresh.client.worker = some first → first.Resting →
    trial.client.worker = some last → last.Resting →
    fresh.client.source.taken = trial.client.source.taken → trial.Shortfall schedule fresh

theorem Balance.shortfall {schedule other : Schedule (Journal Source)}
    {every : UInt64} {trial fresh : Trial Source} {first last : Dispatcher}
    (balanceFirst : fresh.Balance other every first) (balance : trial.Balance schedule every last)
    (complete : fresh.lost = []) (employedFirst : fresh.client.worker = some first)
    (employed : trial.client.worker = some last)
    (same : fresh.client.source.taken = trial.client.source.taken) :
    trial.Shortfall schedule fresh := by
  have notices := filterMap_entriesOf Event.notice? (congrArg noticesIn complete)
  have measurements :=
    filterMap_entriesOf Event.measurement? (congrArg measurementsIn complete)
  rw [balanceFirst.books.taken, same, ← balance.books.taken] at notices measurements
  have ordered := balanceFirst.books.tracker_of_sole (congrArg noticesIn complete)
  constructor
  · rw [Bool.eq_iff_iff, balance.books.complete_iff, balanceFirst.books.complete_iff, same]
  · rintro (sole | successive)
    · rw [balance.books.tracker_of_sole sole, ordered, same]
    · rw [balance.tidy successive, ordered, same]
  · rw [Client.stats, Client.stats, employed, employedFirst]
    simp only
    rw [balance.systemEvents, balanceFirst.systemEvents]
    exact (length_filterMap_entries _ _ _).symm.trans (congrArg List.length notices)
  · rw [Client.stats, Client.stats, employed, employedFirst]
    simp only
    rw [balance.received, balanceFirst.received]
    exact (length_filterMap_entries _ _ _).symm.trans (congrArg List.length measurements)
  · intro none
    rw [balance.stream, balanceFirst.stream]
    exact congrArg _ ((filterMap_entriesOf _ none).symm.trans measurements)

theorem Faithful.balance {schedule : Schedule (Journal Source)} {every : UInt64}
    {trial : Trial Source} (faithful : trial.Faithful schedule every) {dispatcher : Dispatcher}
    (employed : trial.client.worker = some dispatcher) (resting : dispatcher.Resting) :
    trial.Balance schedule every dispatcher := by
  cases faithful with
  | unstarted unattended _ _ _ _ _ =>
      have unemployed : trial.client.worker = none := Option.map_eq_none_iff.1 unattended
      cases unemployed.symm.trans employed
  | attended working resuming =>
      rcases Option.map_eq_some_iff.1 working with ⟨same, present, rfl⟩
      cases present.symm.trans employed
      rcases resting.settled with ⟨uncounted, unrecorded, _, owed⟩
      rcases resting.held_only with ⟨unadmitted, undelivered⟩
      rcases resuming with ⟨books, _, ⟨own, intact, counted⟩, tidy⟩
      rcases intact.passed with ⟨admitted, split, _, passed⟩
      have systemEvents := counted.systemEvents
      have received := counted.received
      have balance := counted.balance
      simp only [Pipeline.apart, uncounted, unadmitted, undelivered, owed, noticesIn_nil,
        measurementsIn_nil, List.length_nil, Nat.add_zero, List.append_nil]
        at systemEvents received balance split passed
      have undropped : dispatcher.stats.dropped = 0 := intact.undropped.1
      refine ⟨?_, ?_, systemEvents, received, ?_, undropped, ?_⟩
      · apply books.congr
        intro number
        simp [owedBy, unrecorded]
      · intro successive
        rcases tidy successive with ⟨heard, all, tracked⟩
        rw [unrecorded, List.append_nil] at all
        rw [all]
        exact tracked
      · rw [balance, undropped, Nat.add_zero]
      · rw [Trial.kept, split, passed, Trial.stream, employed, List.append_assoc]

end Trial

/-! ## A start that fails is not without effect -/

namespace Client

/-- A source that refuses to list at first, and then reports that it has listed. -/
def unready : Script :=
  .ofResults [.error (.listingFailed ""), .ok [.event (.progress 1)]] []

/-- The attempt to start a client again, when its first start has failed and some cues have
come up meanwhile. -/
def startAgain (schedule : Schedule Script) (config : Config) (source : Script)
    (cues : List Cue) : Except ClientError Unit × Client Script :=
  ((((Client.new config source).start schedule).2.updateSource fun script =>
    script.push cues).between schedule).start schedule

/-- Nothing but the first result of listing is missing from what a source began with. -/
def relisted (source : Script) (cues : List Cue) : Script :=
  { source with listings := source.listings.tail }.push cues

/-- After a start that failed the client goes on counting and recording events, and a client
that is started again counts fewer events than one whose first start is successful. -/
theorem failed_start_takes_events :
    (¬∀ (schedule : Schedule Script) (config : Config) (source : Script) (cues : List Cue)
      (error : ClientError), ((Client.new config source).start schedule).1 = .error error →
      ((((Client.new config source).start schedule).2.updateSource fun script =>
        script.push cues).between schedule).stats =
          ((Client.new config source).start schedule).2.stats) ∧
    (¬∀ (schedule : Schedule Script) (config : Config) (source : Script) (cues : List Cue)
      (error : ClientError), ((Client.new config source).start schedule).1 = .error error →
      ((((Client.new config source).start schedule).2.updateSource fun script =>
        script.push cues).between schedule).tracker.found =
          ((Client.new config source).start schedule).2.tracker.found) ∧
    ¬∀ (schedule : Schedule Script) (config : Config) (source : Script) (cues : List Cue)
      (error : ClientError), ((Client.new config source).start schedule).1 = .error error →
      (startAgain schedule config source cues).1 = .ok () →
      ((Client.new config (relisted source cues)).start schedule).1 = .ok () →
      ((startAgain schedule config source cues).2.between schedule).stats =
        (((Client.new config (relisted source cues)).start schedule).2.between schedule).stats := by
  have refused : ((Client.new .default unready).start .patient).1 = .error (.listingFailed "") := by
    with_unfolding_all rfl
  refine ⟨?_, ?_, ?_⟩
  · intro unchanged
    have same := unchanged .patient .default unready
      [.event (.found ⟨"LPMS", "a", .simulated, "sim"⟩)] _ refused
    exact absurd same (by decide +kernel)
  · intro unchanged
    have same := unchanged .patient .default unready
      [.event (.found ⟨"LPMS", "a", .simulated, "sim"⟩)] _ refused
    exact absurd same (by decide +kernel)
  · intro equivalent
    have same := equivalent .patient .default unready
      [.event (.found ⟨"LPMS", "a", .simulated, "sim"⟩)] _ refused
      (by with_unfolding_all rfl) (by with_unfolding_all rfl)
    exact absurd same (by decide +kernel)

end Client

/-! ## What is true of every start -/

namespace Trial

variable {Source : Type} [EventSource Source]

/-- Every client keeps of its failed starts what the tracker knows of them and nothing else,
and its counters and its stream lack what the dispatchers of these starts took. -/
theorem survival_of_reachable {schedule : Schedule (Journal Source)} {config : Config}
    {source : Source} {trial : Trial Source}
    (reachable : Reachable schedule config source trial) :
    trial.Survival schedule config source where
  idle := reachable.kept_of_idle
  failed := by
    intro idle error refused
    have passage := trial.client.passage_start schedule
    rw [Client.meet, refused] at passage
    have left : trial.client.Kept (trial.client.start schedule).2 ∧
        (trial.client.start schedule).2.Attended := by
      generalize (trial.client.start schedule).2 = later at passage
      cases passage with
      | refuse unfit => exact absurd idle unfit
      | failToStart _ kept attended => exact ⟨kept, attended⟩
    refine ⟨left.1, ?_⟩
    cases (reachable.start idle).faithful with
    | unstarted unattended =>
        rcases left.2 with ⟨scene, present, _⟩
        cases unattended.symm.trans present
    | attended working resuming =>
        rcases Option.map_eq_some_iff.1 working with ⟨dispatcher, employed, rfl⟩
        rcases resuming.serves with ⟨_, intact, _⟩
        exact ⟨dispatcher, employed, intact.unrequested, intact.received⟩
  balance := fun dispatcher => reachable.faithful.balance
  shortfall := by
    intro other origin fresh first last reachableFirst complete employedFirst restingFirst
      employed resting same
    have balanceFirst := reachableFirst.faithful.balance employedFirst restingFirst
    have balance := reachable.faithful.balance employed resting
    exact balanceFirst.shortfall balance complete employedFirst employed same

/-- The source refuses the first start and reports a sensor before the second one. -/
def resumed : Trial Script :=
  (((((begin .default Client.unready).start .patient).feed fun script =>
    script.push [.event (.found ⟨"LPMS", "a", .simulated, "sim"⟩)]).between
      .patient).start .patient).between .patient

/-- The second dispatcher counts one of the two events that were taken. -/
theorem survival_of_second_start :
    resumed.client.stats.systemEvents = 1 ∧
      (noticesIn resumed.client.source.taken).length = 2 ∧
      resumed.Survival .patient .default Client.unready := by
  have reachable : Reachable .patient .default Client.unready resumed :=
    .between (.start (.between (.feed (.start .begin rfl) _)) (by decide +kernel))
  exact ⟨by decide +kernel, by decide +kernel, survival_of_reachable reachable⟩

end Trial

end SensorStream
