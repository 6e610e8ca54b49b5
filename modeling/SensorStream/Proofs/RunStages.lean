import SensorStream.Proofs.Dealings
import SensorStream.Proofs.Findings
import SensorStream.Proofs.FinalCounters
import SensorStream.Proofs.LifeCycle

/-!
# The stages of a run

A run goes from one stage to the next until a call fails, and shuts down there.  At each
stage it is known which requests were made of the source so far.
-/

namespace SensorStream

/-! ## The ways of a run -/

namespace Client

section Stages

variable {Source : Type} [EventSource Source] (schedule : Schedule Source) (config : Config)
  (source : Source)

/-- A client of a run that has started discovery. -/
def Started (client : Client Source) : Prop :=
  (Client.new config source).start schedule = (.ok (), client)

/-- A client of a run that has found these sensors. -/
def Found (sensors : List Descriptor) (client : Client Source) : Prop :=
  ∃ earlier : Client Source, Started schedule config source earlier ∧
    earlier.awaitDiscovery schedule = (.ok sensors, client)

/-- A client of a run that is connected to the first sensor. -/
def Connected (handle : Handle) (client : Client Source) : Prop :=
  ∃ (sensors : List Descriptor) (earlier : Client Source),
    Found schedule config source sensors earlier ∧
      earlier.connect schedule 0 = (.ok handle, client)

/-- A client of a run that has streamed. -/
def Streamed (handle : Handle) (observation : Observation) (client : Client Source) : Prop :=
  ∃ earlier : Client Source, Connected schedule config source handle earlier ∧
    earlier.stream schedule = (.ok observation, client)

/-- The ways in which a run can go.  It comes to one of its stages and shuts down there. -/
inductive Running : Except Mishap RunReport → Client Source → Prop where
  | unlisted {error : ClientError} {client : Client Source}
      (refused : (Client.new config source).start schedule = (.error error, client)) :
      Running (.error (.error error)) (client.shutdown schedule).2
  | undiscovered {mishap : Mishap} {earlier client : Client Source}
      (started : Started schedule config source earlier)
      (missed : earlier.awaitDiscovery schedule = (.error mishap, client)) :
      Running (.error mishap) (client.shutdown schedule).2
  | unconnected {error : ClientError} {sensors : List Descriptor} {earlier client : Client Source}
      (found : Found schedule config source sensors earlier)
      (failed : earlier.connect schedule 0 = (.error error, client)) :
      Running (.error (.error error)) (client.shutdown schedule).2
  | unstreamed {mishap : Mishap} {handle : Handle} {earlier client : Client Source}
      (connected : Connected schedule config source handle earlier)
      (failed : earlier.stream schedule = (.error mishap, client)) :
      Running (.error mishap) (client.shutdown schedule).2
  | unlinked {handle : Handle} {observation : Observation} {client : Client Source}
      (streamed : Streamed schedule config source handle observation client)
      (missing : (client.shutdown schedule).2.connection = none) :
      Running (.error (.error (.wrongState "Terminated (no connection)")))
        (client.shutdown schedule).2
  | reported {handle other : Handle} {sensor : Descriptor} {observation : Observation}
      {client : Client Source}
      (streamed : Streamed schedule config source handle observation client)
      (present : (client.shutdown schedule).2.connection = some (sensor, other)) :
      Running (.ok ⟨sensor, handle, observation, (client.shutdown schedule).2.stats,
          (client.shutdown schedule).1⟩)
        (client.shutdown schedule).2

variable {schedule config source} in
theorem Connected.running {handle : Handle} {client : Client Source}
    (connected : Connected schedule config source handle client) :
    Running schedule config source (client.streamToEnd schedule handle).1
      (client.streamToEnd schedule handle).2 := by
  rw [streamToEnd]
  cases streams : client.stream schedule with
  | mk result later =>
      cases result with
      | error mishap => exact .unstreamed connected streams
      | ok observation =>
          have streamed : Streamed schedule config source handle observation later :=
            ⟨client, connected, streams⟩
          simp only
          cases present : (later.shutdown schedule).2.connection with
          | none => exact .unlinked streamed present
          | some link => exact .reported streamed present

theorem running_run :
    Running schedule config source (run schedule config source).1
      (run schedule config source).2 := by
  rw [run]
  cases starts : (Client.new config source).start schedule with
  | mk result client =>
      cases result with
      | error error => exact .unlisted starts
      | ok _ =>
          simp only
          cases waits : client.awaitDiscovery schedule with
          | mk result later =>
              cases result with
              | error mishap => exact .undiscovered starts waits
              | ok sensors =>
                  have found : Found schedule config source sensors later :=
                    ⟨client, starts, waits⟩
                  simp only
                  cases connects : later.connect schedule 0 with
                  | mk result last =>
                      cases result with
                      | error error => exact .unconnected found connects
                      | ok handle =>
                          have connected : Connected schedule config source handle last :=
                            ⟨sensors, later, found, connects⟩
                          exact connected.running

end Stages

section Reached

variable {Source : Type} [EventSource Source] {schedule : Schedule Source} {config : Config}
  {source : Source} {client : Client Source}

theorem Started.reachable (started : Started schedule config source client) :
    ∃ replies : List (Except Mishap Reply),
      Life.Reachable schedule config source ⟨client, replies⟩ := by
  have begun : Life.Reachable schedule config source _ := .meet .begin .start
  rw [Life.meet, Life.begin, meet, started] at begun
  exact ⟨_, begun⟩

theorem Found.reachable {sensors : List Descriptor}
    (found : Found schedule config source sensors client) :
    ∃ replies : List (Except Mishap Reply),
      Life.Reachable schedule config source ⟨client, replies⟩ := by
  rcases found with ⟨earlier, started, waited⟩
  rcases started.reachable with ⟨replies, reachable⟩
  have awaited := reachable.meet .awaitDiscovery
  rw [Life.meet, meet, waited] at awaited
  exact ⟨_, awaited⟩

theorem Connected.reachable {handle : Handle}
    (connected : Connected schedule config source handle client) :
    ∃ replies : List (Except Mishap Reply),
      Life.Reachable schedule config source ⟨client, replies⟩ := by
  rcases connected with ⟨sensors, earlier, found, connects⟩
  rcases found.reachable with ⟨replies, reachable⟩
  have linked := reachable.meet (.connect 0)
  rw [Life.meet, meet, connects] at linked
  exact ⟨_, linked⟩

theorem Connected.state_eq {handle : Handle}
    (connected : Connected schedule config source handle client) : client.state = .connected := by
  rcases connected with ⟨sensors, earlier, found, connects⟩
  have passage := earlier.passage_meet schedule (.connect 0)
  rw [meet, connects] at passage
  change earlier.Passage schedule (.connect 0) (.ok (.connected handle)) client at passage
  cases passage with
  | connect => rfl

/-- A run that has connected goes on to stream. -/
theorem Connected.run_eq {handle : Handle}
    (connected : Connected schedule config source handle client) :
    run schedule config source = client.streamToEnd schedule handle := by
  rcases connected with ⟨sensors, earlier, ⟨first, started, waited⟩, connects⟩
  rw [Started] at started
  rw [run, started]
  simp only [waited, connects]

/-- Where the clock can tell the end of the window, a client that is connected streams. -/
theorem Connected.streams {handle : Handle}
    (connected : Connected schedule config source handle client)
    (fits : ∀ tick, deadlineFits (schedule.clock tick) config.streamWindow = true) :
    ∃ observation : Observation, (client.stream schedule).1 = .ok observation ∧
      (client.transition .streaming).Kept (client.stream schedule).2 := by
  rcases connected.reachable with ⟨replies, reachable⟩
  have attended := reachable.orderly.attended (connected.state_eq ▸ rfl)
  have passage := client.passage_meet schedule .stream
  rcases passage.streams connected.state_eq attended (reachable.config_eq ▸ fits) with
      ⟨observation, streams, kept⟩
  rw [meet] at streams
  cases outcome : (client.stream schedule).1 with
  | error mishap =>
      rw [outcome] at streams
      cases streams
  | ok seen => exact ⟨seen, rfl, kept⟩

end Reached

end Client

/-! ## The requests of the stages -/

namespace Client

variable {Source : Type} [EventSource Source]

section Requests

variable (schedule : Schedule (Journal (Ledger Source))) (config : Config) (source : Source)

/-- A client in the course of a run, and the requests that were made for it. -/
structure Underway (client : Client (Journal (Ledger Source))) (requests : List Dealing) :
    Prop where
  life : ∃ replies : List (Except Mishap Reply),
    Life.Reachable schedule config (.start (.start source)) ⟨client, replies⟩
  dealt : (Journal.start (Ledger.start source)).Deals client.source requests

variable {schedule config source} {client : Client (Journal (Ledger Source))}
  {requests : List Dealing}

theorem Underway.begin :
    Underway schedule config source (.new config (.start (.start source))) [] :=
  ⟨⟨[], .begin⟩, .refl _⟩

namespace Underway

theorem meet (underway : Underway schedule config source client requests) (call : Call)
    {more : List Dealing} (deals : client.source.Deals (client.meet schedule call).2.source more) :
    Underway schedule config source (client.meet schedule call).2 (requests ++ more) where
  life := by
    rcases underway.life with ⟨replies, reachable⟩
    exact ⟨_, reachable.meet call⟩
  dealt := underway.dealt.trans deals

theorem path (underway : Underway schedule config source client requests) :
    ClientState.Path .idle client.trail client.state := by
  rcases underway.life with ⟨replies, reachable⟩
  exact reachable.orderly.path

theorem attended (underway : Underway schedule config source client requests)
    (state : client.state.isUnderway = true) :
    ∃ scene : Scene (Journal (Ledger Source)), client.scene? = some scene := by
  rcases underway.life with ⟨replies, reachable⟩
  rcases reachable.orderly.attended state with ⟨scene, working, _⟩
  exact ⟨scene, working⟩

/-- The journal and the ledger agree on the events that were taken. -/
theorem taken_eq (underway : Underway schedule config source client requests) :
    client.source.taken = eventsIn client.source.dealings :=
  underway.dealt.agreed rfl

theorem requests_eq (underway : Underway schedule config source client requests) :
    requestsIn client.source.dealings = requests :=
  underway.dealt.requests_eq

end Underway

/-! ### Listing -/

/-- Asking to start lists once, whatever comes of it. -/
theorem Underway.start :
    Underway schedule config source
      ((new config (.start (.start source))).start schedule).2
      [.listed ((new config (.start (.start source))).start schedule).1] :=
  Underway.begin.meet .start (deals_start schedule _ rfl)

theorem state_of_refused {error : ClientError}
    (refused : (new config (.start (.start source))).start schedule = (.error error, client)) :
    client.state = .idle := by
  have passage := (new config (.start (.start source))).passage_meet schedule .start
  rw [meet, refused] at passage
  cases passage with
  | refuse unfit => exact absurd rfl unfit
  | failToStart state kept => exact kept.state

theorem Started.state (started : Started schedule config (.start (.start source)) client) :
    client.state = .discovering := by
  have passage := (new config (.start (.start source))).passage_meet schedule .start
  rw [meet, started] at passage
  cases passage with
  | start => rfl

theorem Started.underway (started : Started schedule config (.start (.start source)) client) :
    Underway schedule config source client [.listed (.ok ())] := by
  have underway : Underway schedule config source _ _ := .start
  rw [started] at underway
  exact underway

/-! ### Discovery -/

theorem Started.awaiting (started : Started schedule config (.start (.start source)) client) :
    Underway schedule config source (client.awaitDiscovery schedule).2 [.listed (.ok ())] := by
  rcases started.underway.attended (started.state ▸ rfl) with ⟨scene, working⟩
  exact started.underway.meet .awaitDiscovery (deals_awaitDiscovery schedule working)

/-- A client that has concluded discovery keeps what the events discover. -/
theorem Started.discovers (started : Started schedule config (.start (.start source)) client)
    (concluded : (client.awaitDiscovery schedule).2.state ≠ .discovering)
    (ongoing : (client.awaitDiscovery schedule).2.state ≠ .terminated) :
    Discovers (noticesIn (eventsIn (client.awaitDiscovery schedule).2.source.dealings))
      (client.awaitDiscovery schedule).2.sensors := by
  rcases started.underway.attended (started.state ▸ rfl) with ⟨scene, working⟩
  have known := awaitDiscovery_concludes working started.state concluded
  have reachable : Session.Reachable schedule config (.start source) ⟨client, []⟩ := by
    have began : Session.Reachable schedule config (Ledger.start source) _ := .start
    rw [Session.start, started] at began
    exact began
  have awaited := reachable.serve .awaitDiscovery
  have discovers := awaited.discovers ongoing known
  rw [← started.awaiting.taken_eq]
  exact discovers

/-- A wait for discovery that brings no sensors leaves the client where it is, or has found
that there are none. -/
theorem Started.missed {mishap : Mishap} {later : Client (Journal (Ledger Source))}
    (started : Started schedule config (.start (.start source)) client)
    (missed : client.awaitDiscovery schedule = (.error mishap, later)) :
    later.state = .discovering ∨
      later.state = .noSensorFound ∧ mishap = .error .noSensorFound ∧ later.sensors = [] := by
  have passage := client.passage_meet schedule .awaitDiscovery
  rw [meet, missed] at passage
  change client.Passage schedule .awaitDiscovery (.error mishap) later at passage
  cases passage with
  | refuse unfit => exact absurd started.state unfit
  | failToDiscover state kept => exact .inl (kept.state.trans state)
  | findNone => exact .inr ⟨rfl, rfl, rfl⟩

section Found

variable {sensors : List Descriptor}
  (found : Found schedule config (.start (.start source)) sensors client)

include found

theorem Found.underway : Underway schedule config source client [.listed (.ok ())] := by
  rcases found with ⟨earlier, started, waited⟩
  have awaiting := started.awaiting
  rw [waited] at awaiting
  exact awaiting

theorem Found.concluded :
    client.state = .sensorFound ∧ client.sensors = sensors ∧ sensors ≠ [] := by
  rcases found with ⟨earlier, started, waited⟩
  have passage := earlier.passage_meet schedule .awaitDiscovery
  rw [meet, waited] at passage
  cases passage with
  | find _ found => exact ⟨rfl, rfl, found⟩

theorem Found.discovers :
    Discovers (noticesIn (eventsIn client.source.dealings)) sensors := by
  have concluded := found.concluded
  rcases found with ⟨earlier, started, waited⟩
  have discovers := started.discovers
  rw [waited] at discovers
  rw [← concluded.2.1]
  apply discovers <;> rw [concluded.1] <;> exact ClientState.noConfusion

end Found

/-! ### Connecting and streaming -/

variable (schedule config source) in
/-- The client has tried to acquire a sensor, the first that discovery has found, and was
answered so. -/
structure Tried (client : Client (Journal (Ledger Source))) (sensor : Descriptor)
    (results : List (Except AcquireError Handle)) : Prop where
  underway : Underway schedule config source client
    (.listed (.ok ()) :: results.map (.acquired sensor))
  /-- Discovery was complete before the first attempt. -/
  chosen : ∃ (known : List Dealing) (others : List Descriptor),
    known <+: client.source.dealings ∧ requestsIn known = [.listed (.ok ())] ∧
      Discovers (noticesIn (eventsIn known)) (sensor :: others)
  persistent : Connector.Persistent (max 1 config.connectAttempts.toNat) results

theorem Found.tried {sensors : List Descriptor}
    (found : Found schedule config (.start (.start source)) sensors client) :
    ∃ (sensor : Descriptor) (results : List (Except AcquireError Handle)),
      client.sensors[0]? = some sensor ∧
        Tried schedule config source (client.connect schedule 0).2 sensor results ∧
        ∀ handle : Handle, (client.connect schedule 0).1 = .ok handle ↔ .ok handle ∈ results := by
  have underway := found.underway
  rcases found.concluded with ⟨state, rfl, some⟩
  rcases List.exists_cons_of_ne_nil some with ⟨sensor, others, sensors⟩
  have first : client.sensors[0]? = Option.some sensor := by
    rw [sensors]
    rfl
  rcases client.deals_connect schedule state first with ⟨results, deals, persistent, connects⟩
  have limit : client.connector.maxAttempts = max 1 config.connectAttempts.toNat := by
    rcases underway.life with ⟨replies, reachable⟩
    rw [← maxAttempts_sanitized, ← reachable.config_eq]
    rfl
  rw [limit] at persistent
  refine ⟨sensor, results, first, ⟨underway.meet (.connect 0) deals, ?_, persistent⟩, connects⟩
  refine ⟨client.source.dealings, others, deals.grown, underway.requests_eq, ?_⟩
  rw [← sensors]
  exact found.discovers

theorem Found.state_of_failed {sensors : List Descriptor} {error : ClientError}
    {later : Client (Journal (Ledger Source))}
    (found : Found schedule config (.start (.start source)) sensors client)
    (failed : client.connect schedule 0 = (.error error, later)) :
    later.state = .connectFailed := by
  have passage := client.passage_meet schedule (.connect 0)
  rw [meet, failed] at passage
  change client.Passage schedule (.connect 0) (.error (.error error)) later at passage
  cases passage with
  | failToConnect => rfl
  | refuse unfit =>
      rcases found.concluded with ⟨state, rfl, some⟩
      exact absurd ⟨state, List.length_pos_iff.2 some⟩ unfit

/-- A client that is connected was answered with a handle, and has kept it. -/
theorem Connected.tried {handle : Handle}
    (connected : Connected schedule config (.start (.start source)) handle client) :
    ∃ (sensor : Descriptor) (results : List (Except AcquireError Handle)),
      Tried schedule config source client sensor results ∧ .ok handle ∈ results ∧
        client.connection = some (sensor, handle) ∧ client.state = .connected := by
  rcases connected with ⟨sensors, earlier, found, connects⟩
  rcases found.tried with ⟨sensor, results, first, tried, reaches⟩
  have passage := earlier.passage_meet schedule (.connect 0)
  rw [connects] at tried reaches
  rw [meet, connects] at passage
  change earlier.Passage schedule (.connect 0) (.ok (.connected handle)) client at passage
  cases passage with
  | connect state listed =>
      cases first.symm.trans listed
      exact ⟨sensor, results, tried, (reaches handle).1 rfl, rfl, rfl⟩

theorem Tried.stream {sensor : Descriptor} {results : List (Except AcquireError Handle)}
    (tried : Tried schedule config source client sensor results)
    (state : client.state = .connected) :
    Tried schedule config source (client.stream schedule).2 sensor results := by
  rcases tried.underway.attended (state ▸ rfl) with ⟨scene, working⟩
  have deals := deals_stream schedule working
  refine ⟨?_, ?_, tried.persistent⟩
  · have streams := tried.underway.meet .stream deals
    rw [List.append_nil] at streams
    exact streams
  · rcases tried.chosen with ⟨known, others, before, chosen⟩
    exact ⟨known, others, before.trans deals.grown, chosen⟩

theorem connection_shutdown (ongoing : client.state ≠ .terminated) :
    (client.shutdown schedule).2.connection = client.connection := by
  rcases client.shutdown_of_ongoing schedule ongoing with ⟨later, done, kept, _⟩
  rw [done]
  exact kept.connection

/-- A client that has streamed is still connected, also when it has shut down, and its
observation counts right. -/
theorem Streamed.tried {handle : Handle} {observation : Observation}
    (streamed : Streamed schedule config (.start (.start source)) handle observation client) :
    ∃ (sensor : Descriptor) (results : List (Except AcquireError Handle)),
      Tried schedule config source client sensor results ∧ .ok handle ∈ results ∧
        (client.shutdown schedule).2.connection = some (sensor, handle) ∧
        client.state = .streaming ∧ observation.totals = .ofSamples observation.seen := by
  rcases streamed with ⟨earlier, connected, streams⟩
  rcases connected.tried with ⟨sensor, results, tried, reached, linked, state⟩
  have streaming := tried.stream state
  rw [streams] at streaming
  rcases stream_of_ok schedule streams with ⟨later, totals⟩
  have ongoing : client.state ≠ .terminated := by
    rw [later]
    exact ClientState.noConfusion
  refine ⟨sensor, results, streaming, reached, ?_, later, totals⟩
  rw [connection_shutdown ongoing]
  have passage := earlier.passage_meet schedule .stream
  rw [meet, streams] at passage
  change earlier.Passage schedule .stream (.ok (.observed observation)) client at passage
  cases passage with
  | stream _ kept => exact kept.connection.trans linked

/-! ### Shutting down -/

theorem trail_shutdown (ongoing : client.state ≠ .terminated) :
    (client.shutdown schedule).2.trail =
      client.trail ++ [⟨client.state, .shuttingDown⟩, ⟨.shuttingDown, .terminated⟩] := by
  rcases client.shutdown_of_ongoing schedule ongoing with ⟨later, done, kept, _⟩
  rw [done, trail_transition, kept.trail, kept.state]
  simp

namespace Underway

variable (underway : Underway schedule config source client requests)
  (ongoing : client.state ≠ .terminated)

include underway ongoing

theorem closed :
    Underway schedule config source (client.shutdown schedule).2 (requests ++ [.shutDown]) :=
  underway.meet .shutdown (client.deals_shutdown schedule ongoing)

theorem path_shutdown :
    ClientState.Path .idle (client.shutdown schedule).2.trail .terminated := by
  have path := (underway.closed ongoing).path
  rcases client.shutdown_of_ongoing schedule ongoing with ⟨later, done, _⟩
  rw [done] at path ⊢
  exact path

/-- Only a client that has found no sensor has ever been in that state. -/
theorem noSensorFound_of_mem
    (visited : ⟨.discovering, .noSensorFound⟩ ∈ (client.shutdown schedule).2.trail) :
    client.state = .noSensorFound := by
  rw [trail_shutdown ongoing] at visited
  have before : ⟨.discovering, .noSensorFound⟩ ∈ client.trail := by
    simpa using visited
  rcases underway.path.state_of_mem before with here | begun | ended
  · exact here
  · rcases underway.life with ⟨replies, reachable⟩
    have settled := reachable.settled
    rw [begun] at settled
    cases settled
  · exact absurd ended ongoing

end Underway

end Requests

end Client

end SensorStream
