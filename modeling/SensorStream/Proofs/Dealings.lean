import SensorStream.Proofs.Ledger
import SensorStream.Proofs.SampleStream

/-!
# What a client deals with its source

Which requests the dispatcher and each call of a client make of the source.  The
dispatcher only waits for events; starting lists, connecting acquires and shutting down
shuts down, and nothing else is asked of the source.
-/

namespace SensorStream

namespace Journal

variable {Source : Type}

/-- The entries of the ledger behind the journal. -/
def dealings (journal : Journal (Ledger Source)) : List Dealing :=
  journal.source.dealings

/-- From the one moment to the other the ledger has grown, and these were the requests.
The journal and the ledger still agree on the events. -/
structure Deals (earlier later : Journal (Ledger Source)) (requests : List Dealing) : Prop where
  grown : earlier.dealings <+: later.dealings
  requests_eq : requestsIn later.dealings = requestsIn earlier.dealings ++ requests
  agreed : earlier.taken = eventsIn earlier.dealings → later.taken = eventsIn later.dealings

namespace Deals

theorem refl (journal : Journal (Ledger Source)) : journal.Deals journal [] :=
  ⟨List.prefix_refl _, (List.append_nil _).symm, id⟩

theorem trans {first middle last : Journal (Ledger Source)} {before after : List Dealing}
    (earlier : first.Deals middle before) (later : middle.Deals last after) :
    first.Deals last (before ++ after) where
  grown := earlier.grown.trans later.grown
  requests_eq := by
    rw [later.requests_eq, earlier.requests_eq, List.append_assoc]
  agreed := fun agreed => later.agreed (earlier.agreed agreed)

/-- Only events were taken in between. -/
theorem of_events {earlier later : Journal (Ledger Source)} (events : List Event)
    (dealings : later.dealings = earlier.dealings ++ events.map .took)
    (taken : later.taken = earlier.taken ++ events) : earlier.Deals later [] where
  grown := dealings ▸ List.prefix_append _ _
  requests_eq := by
    rw [dealings, requestsIn_append, requestsIn_took]
  agreed := by
    intro agreed
    rw [taken, dealings, agreed, eventsIn_append, eventsIn_took]

/-- A request was made in between, and nothing else. -/
theorem of_request {earlier later : Journal (Ledger Source)} {dealing : Dealing}
    (request : dealing.isRequest = true) (dealings : later.dealings = earlier.dealings ++ [dealing])
    (taken : later.taken = earlier.taken) : earlier.Deals later [dealing] where
  grown := dealings ▸ List.prefix_append _ _
  requests_eq := by
    rw [dealings, requestsIn_append]
    simp [requestsIn, request]
  agreed := by
    intro agreed
    rw [taken, dealings, agreed, eventsIn_append]
    cases dealing with
    | took event => cases request
    | _ => exact (List.append_nil _).symm

end Deals

variable [EventSource Source]

theorem deals_list (journal : Journal (Ledger Source)) :
    journal.Deals (EventSource.list journal).2 [.listed (EventSource.list journal).1] :=
  .of_request rfl rfl rfl

theorem deals_acquire (sensor : Descriptor) (journal : Journal (Ledger Source)) :
    journal.Deals (EventSource.acquire sensor journal).2
      [.acquired sensor (EventSource.acquire sensor journal).1] :=
  .of_request rfl rfl rfl

theorem deals_shutdown (journal : Journal (Ledger Source)) :
    journal.Deals (EventSource.shutdown journal) [.shutDown] :=
  .of_request rfl rfl rfl

theorem deals_wait (journal : Journal (Ledger Source)) :
    journal.Deals (EventSource.wait journal).2 [] :=
  .of_events (EventSource.wait journal).1.event?.toList rfl rfl

theorem deals_advance {budget : Nat} {journal : Journal (Ledger Source)}
    {elapsed : Elapsed budget (Journal (Ledger Source))}
    (passes : EventSource.advance budget journal = some elapsed) :
    journal.Deals elapsed.world [] := by
  rcases Option.map_eq_some_iff.1 passes with ⟨inner, advances, rfl⟩
  rcases Option.map_eq_some_iff.1 advances with ⟨innermost, _, rfl⟩
  exact .of_events [] (List.append_nil _).symm (List.append_nil _).symm

end Journal

/-! ## The dispatcher's side makes no requests -/

section Dispatcher

variable {Source : Type} [EventSource Source]

theorem Pipeline.deals_step (pipeline : Pipeline (Journal (Ledger Source))) :
    pipeline.source.Deals pipeline.step.source [] := by
  have advance := pipeline.advance_step
  generalize pipeline.step = later at advance ⊢
  cases advance with
  | wait => exact pipeline.source.deals_wait
  | _ => exact .refl pipeline.source

theorem Moves.deals {first last : Pipeline (Journal (Ledger Source))} (moves : Moves first last) :
    first.source.Deals last.source [] := by
  induction moves with
  | rest pipeline => exact .refl pipeline.source
  | step _ ih => exact (Pipeline.deals_step _).trans ih
  | advance passes _ ih => exact (Journal.deals_advance passes).trans ih

/-- Nor does a dispatcher that takes the place of another one. -/
theorem Schedule.deals_replace (schedule : Schedule (Journal (Ledger Source))) (tick : Nat)
    (succession : Succession (Journal (Ledger Source))) :
    succession.source.Deals (schedule.replace tick succession).source [] := by
  apply Succession.replace_keeps fun both => succession.source.Deals both.source []
  · intro both turn before
    cases turn with
    | earlier => exact before.trans both.earlierSide.deals_step
    | later => exact before.trans both.laterSide.deals_step
    | pass budget =>
        rw [Succession.turn]
        split
        · exact before
        · rename_i elapsed passes
          exact before.trans (Journal.deals_advance passes)
  · exact id
  · exact .refl succession.source

theorem Pipeline.deals_join (pipeline : Pipeline (Journal (Ledger Source))) :
    pipeline.source.Deals pipeline.join.2.source [] :=
  (moves_runToEnd (pipeline.updateDispatcher Dispatcher.requestStop) rfl).deals

namespace Scene

variable (schedule : Schedule (Journal (Ledger Source)))
  (scene : Scene (Journal (Ledger Source)))

/-- A consumer that takes samples makes no requests. -/
theorem deals_collect (window : Nat) :
    scene.pipeline.source.Deals
      ((surroundings schedule).collect window scene).world.pipeline.source [] := by
  have keeps : (surroundings schedule).Keeps fun _ later =>
      scene.pipeline.source.Deals later.pipeline.source [] :=
    { poll := id
      idle := fun happens before => before.trans (moves_idle happens).deals
      lapse := fun positive before => before.trans (moves_lapse schedule _ positive _).deals }
  exact @Surroundings.Keeps.collect _ _ _ keeps window [] scene (.refl _)

/-- Stopping the dispatcher and its source shuts the source down once. -/
theorem deals_stop :
    scene.pipeline.source.Deals (scene.stop schedule).2.2.pipeline.source [.shutDown] := by
  have asked := (moves_between schedule
    (scene.update fun pipeline => pipeline.updateDispatcher Dispatcher.requestStop)).deals
  have closed := asked.trans (Journal.deals_shutdown _)
  have acted := closed.trans (moves_between schedule (Scene.update _ fun pipeline =>
    pipeline.updateSource EventSource.shutdown)).deals
  have disconnected := acted.trans (moves_between schedule (Scene.update _ fun pipeline =>
    pipeline.updateDispatcher fun dispatcher =>
      { dispatcher with sink := dispatcher.sink.dropReceiver })).deals
  have seen := disconnected.trans (moves_between schedule _).deals
  exact seen.trans (Pipeline.deals_join _)

end Scene

end Dispatcher

/-! ## Attempts to connect -/

namespace Attempts

/-- What the attempts brought, in their order. -/
def results (attempts : Attempts) : List (Except AcquireError Handle) :=
  attempts.failures.map .error ++ attempts.handle?.toList.map .ok

theorem result_eq_ok {attempts : Attempts} {handle : Handle} :
    attempts.result = .ok handle ↔ .ok handle ∈ attempts.results := by
  rcases attempts with ⟨failures, reached⟩
  cases reached <;> simp [result, results, eq_comm]

end Attempts

namespace Connector

/-- Not more results than allowed, and only an ordinary failure is followed by another
attempt. -/
structure Persistent (limit : Nat) (results : List (Except AcquireError Handle)) : Prop where
  limited : results.length ≤ limit
  failing : ∀ result ∈ results.dropLast,
    ∃ error : AcquireError, result = .error error ∧ error ≠ .sourceClosed

theorem Persistent.single {limit : Nat} (positive : 0 < limit)
    (result : Except AcquireError Handle) : Persistent limit [result] :=
  ⟨positive, by simp⟩

theorem Persistent.fail {limit : Nat} {error : AcquireError}
    {later : List (Except AcquireError Handle)} (persistent : Persistent limit later)
    (goesOn : error ≠ .sourceClosed) : Persistent (limit + 1) (.error error :: later) where
  limited := Nat.succ_le_succ persistent.limited
  failing := by
    intro result member
    cases later with
    | nil => cases member
    | cons next rest =>
        rcases List.mem_cons.1 member with rfl | member
        · exact ⟨error, rfl, goesOn⟩
        · exact persistent.failing result member

variable {World : Type} (connector : Connector) (approach : Approach World)

theorem persistent_attemptUpTo (attempts : Nat) (world : World) :
    Persistent attempts (connector.attemptUpTo approach attempts world).1.results := by
  induction attempts generalizing world with
  | zero => exact ⟨Nat.le_refl 0, by simp [attemptUpTo, Attempts.results]⟩
  | succ attempts ih =>
      rw [attemptUpTo]
      split
      · exact .single (Nat.succ_pos attempts) _
      · split
        · exact .single (Nat.succ_pos attempts) _
        · rename_i goesOn
          exact (ih _).fail goesOn

variable {approach} {Source : Type}

/-- Each attempt is one request to acquire the sensor. -/
theorem deals_attemptUpTo (journal : World → Journal (Ledger Source)) (sensor : Descriptor)
    (acquires : ∀ world, (journal world).Deals (journal (approach.acquire world).2)
      [.acquired sensor (approach.acquire world).1])
    (pauses : ∀ span world, (journal world).Deals (journal (approach.pause span world)) [])
    (attempts : Nat) (world : World) :
    (journal world).Deals (journal (connector.attemptUpTo approach attempts world).2)
      ((connector.attemptUpTo approach attempts world).1.results.map (.acquired sensor)) := by
  induction attempts generalizing world with
  | zero => exact .refl (journal world)
  | succ attempts ih =>
      have acquired := acquires world
      rw [attemptUpTo]
      generalize approach.acquire world = attempt at acquired
      rcases attempt with ⟨result, next⟩
      cases result with
      | ok handle => exact acquired
      | error error =>
          simp only
          split
          · exact acquired
          · have paused : (journal next).Deals
                (journal (if attempts = 0 || connector.retryDelay.isZero then next
                  else approach.pause connector.retryDelay next)) [] := by
              split
              · exact .refl (journal next)
              · exact pauses connector.retryDelay next
            exact (acquired.trans paused).trans (ih _)

end Connector

/-! ## What a call deals with the source -/

namespace Client

variable {Source : Type} [EventSource Source] (schedule : Schedule (Journal (Ledger Source)))
  (client : Client (Journal (Ledger Source)))

omit [EventSource Source] in
theorem source_of_scene? {client : Client Source} {scene : Scene Source}
    (working : client.scene? = some scene) : scene.pipeline.source = client.source := by
  rcases Option.map_eq_some_iff.1 working with ⟨dispatcher, _, rfl⟩
  rfl

theorem deals_between : client.source.Deals (client.between schedule).source [] := by
  rw [between]
  cases working : client.scene? with
  | none => exact .refl client.source
  | some scene =>
      rw [← source_of_scene? working]
      exact (scene.moves_between schedule).deals

theorem deals_employWorker : client.source.Deals (client.employWorker schedule).source [] := by
  rw [employWorker]
  split
  case h_1 => exact .refl client.source
  case h_2 earlier _ => exact schedule.deals_replace client.tick (client.succession earlier)

/-- Starting lists once. -/
theorem deals_start (state : client.state = .idle) :
    client.source.Deals (client.start schedule).2.source
      [.listed (client.start schedule).1] := by
  rw [start, if_neg (not_not_intro state)]
  have employed := (client.deals_employWorker schedule).trans
    ((client.employWorker schedule).deals_between schedule)
  have listed := employed.trans (Journal.deals_list _)
  simp only at listed ⊢
  generalize EventSource.list ((client.employWorker schedule).between schedule).source = answer
    at listed ⊢
  rcases answer with ⟨result, source⟩
  cases result <;> exact listed

/-- Waiting for discovery makes no requests. -/
theorem deals_awaitDiscovery {client : Client (Journal (Ledger Source))}
    {scene : Scene (Journal (Ledger Source))} (working : client.scene? = some scene) :
    client.source.Deals (client.awaitDiscovery schedule).2.source [] := by
  rcases working_awaitDiscovery schedule working with ⟨later, still, moves⟩
  rw [← source_of_scene? working, ← source_of_scene? still]
  exact moves.deals

/-- A limit of zero attempts counts as one, before and after the settings are sanitized. -/
theorem maxAttempts_sanitized (config : Config) :
    max config.sanitized.connectAttempts.toNat 1 = max 1 config.connectAttempts.toNat := by
  rw [Config.sanitized]
  by_cases zero : config.connectAttempts = 0
  · simp [zero]
  · simp only [if_neg zero]
    exact Nat.max_comm _ _

theorem deals_attemptConnection (sensor : Descriptor) :
    client.source.Deals (client.attemptConnection schedule sensor).2.source
      ((client.attemptConnection schedule sensor).1.results.map (.acquired sensor)) := by
  rw [attemptConnection]
  cases working : client.scene? with
  | none =>
      apply client.connector.deals_attemptUpTo id sensor
      · exact fun journal => journal.deals_acquire sensor
      · exact fun _ journal => .refl journal
  | some scene =>
      rw [← source_of_scene? working]
      apply client.connector.deals_attemptUpTo fun scene : Scene _ => scene.pipeline.source
      · intro scene
        exact (scene.moves_between schedule).deals.trans (Journal.deals_acquire sensor _)
      · intro span scene
        exact (scene.moves_sleep schedule span.nanoseconds).deals

theorem persistent_attemptConnection (sensor : Descriptor) :
    Connector.Persistent client.connector.maxAttempts
      (client.attemptConnection schedule sensor).1.results := by
  rw [attemptConnection]
  split <;> exact client.connector.persistent_attemptUpTo _ _ _

/-- Connecting to a sensor that was found tries to acquire it, and connects if that was
successful at last. -/
theorem deals_connect {index : Nat} {sensor : Descriptor} (state : client.state = .sensorFound)
    (listed : client.sensors[index]? = some sensor) :
    ∃ results : List (Except AcquireError Handle),
      client.source.Deals (client.connect schedule index).2.source
          (results.map (.acquired sensor)) ∧
        Connector.Persistent client.connector.maxAttempts results ∧
        ∀ handle : Handle,
          (client.connect schedule index).1 = .ok handle ↔ .ok handle ∈ results := by
  have deals := (client.transition .connecting).deals_attemptConnection schedule sensor
  have persistent := (client.transition .connecting).persistent_attemptConnection schedule sensor
  refine ⟨_, ?_, persistent, ?_⟩
  · rw [connect, if_neg (not_not_intro state), listed]
    simp only
    split <;> exact deals
  · intro handle
    rw [← Attempts.result_eq_ok, connect, if_neg (not_not_intro state), listed]
    simp only
    split
    · rename_i reached
      simp [reached]
    · rename_i missed
      simp [missed]

/-- Streaming makes no requests. -/
theorem deals_stream {client : Client (Journal (Ledger Source))}
    {scene : Scene (Journal (Ledger Source))} (working : client.scene? = some scene) :
    client.source.Deals (client.stream schedule).2.source [] := by
  rcases working_stream schedule working with ⟨_, still⟩ | ⟨window, _, still⟩
  · rw [← source_of_scene? working, ← source_of_scene? still]
    exact .refl _
  · rw [← source_of_scene? working, ← source_of_scene? still]
    exact scene.deals_collect schedule window

/-- Shutting down shuts the source down once. -/
theorem deals_shutdown (ongoing : client.state ≠ .terminated) :
    client.source.Deals (client.shutdown schedule).2.source [.shutDown] := by
  cases working : client.scene? with
  | none =>
      rw [shutdown, if_neg ongoing]
      simp only [scene?_transition, working]
      exact client.source.deals_shutdown
  | some scene =>
      rw [(working_shutdown schedule working ongoing).2.2, ← source_of_scene? working]
      exact scene.deals_stop schedule

end Client

end SensorStream
