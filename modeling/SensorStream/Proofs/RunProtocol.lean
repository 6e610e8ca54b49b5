import SensorStream.Proofs.RunStages

/-!
# The protocol of a run

A run lists once, then connects to the sensor that was found first, if any was found, in a
limited number of attempts, and shuts the source down once after all this, on every path.
-/

namespace SensorStream

namespace Client

variable {Source : Type} [EventSource Source]

/-! ## The conduct of a run -/

section Conduct

/-- What a run has asked of its source, in which order and why, and how this is tied to
what it returns. -/
structure Conduct (config : Config) (outcome : Except Mishap RunReport)
    (client : Client (Journal (Ledger Source))) (listing : Except ClientError Unit)
    (attempts : List (Descriptor × Except AcquireError Handle)) : Prop where
  /-- The source was asked to list once, then for the attempts, then to shut down once, and
  for nothing else. -/
  requests : requestsIn client.source.dealings =
    .listed listing :: attempts.map (fun attempt => .acquired attempt.1 attempt.2) ++ [.shutDown]
  listed : attempts ≠ [] → listing = .ok ()
  /-- When the source was asked for a sensor, discovery was complete, and that sensor was
  the first that it had found. -/
  chosen : ∀ {before after : List Dealing} {sensor : Descriptor}
    {result : Except AcquireError Handle},
    client.source.dealings = before ++ .acquired sensor result :: after →
      ∃ others : List Descriptor, Discovers (noticesIn (eventsIn before)) (sensor :: others)
  /-- There were not too many attempts, and none after the last success or the news that the
  source is closed. -/
  persistent : Connector.Persistent (max 1 config.connectAttempts.toNat) (attempts.map Prod.snd)
  path : ClientState.Path .idle client.trail .terminated
  successful : (∃ report : RunReport, outcome = .ok report) ↔
    ∃ (sensor : Descriptor) (handle : Handle), (sensor, .ok handle) ∈ attempts
  reported : ∀ report : RunReport, outcome = .ok report →
    (report.sensor, .ok report.handle) ∈ attempts ∧
      report.observation.totals.accepted = report.observation.seen.length ∧
      report.observation.totals.accepted = report.observation.totals.perSensor.total
  /-- A discovery that has found nothing ends the run without any attempt. -/
  empty : ⟨.discovering, .noSensorFound⟩ ∈ client.trail →
    outcome = .error (.error .noSensorFound) ∧ attempts = [] ∧
      Discovers (noticesIn (eventsIn client.source.dealings)) []

variable {schedule : Schedule (Journal (Ledger Source))} {config : Config} {source : Source}
  {client : Client (Journal (Ledger Source))}

/-- A run that shuts down before it has tried to connect. -/
theorem Conduct.of_untried {listing : Except ClientError Unit} {mishap : Mishap}
    (underway : Underway schedule config source client [.listed listing])
    (ongoing : client.state ≠ .terminated)
    (empty : client.state = .noSensorFound → mishap = .error .noSensorFound ∧
      Discovers (noticesIn (eventsIn client.source.dealings)) []) :
    Conduct config (.error mishap) (client.shutdown schedule).2 listing [] where
  requests := (underway.closed ongoing).requests_eq
  listed := fun attempted => absurd rfl attempted
  chosen := by
    intro before after sensor result split
    have requests := (underway.closed ongoing).requests_eq
    rw [split, requestsIn_append] at requests
    have member : Dealing.acquired sensor result ∈ [.listed listing, .shutDown] := by
      rw [← List.singleton_append, ← requests]
      simp [requestsIn, Dealing.isRequest]
    simp at member
  persistent := ⟨Nat.zero_le _, by simp⟩
  path := underway.path_shutdown ongoing
  successful := by simp
  reported := nofun
  empty := by
    intro visited
    rcases empty (underway.noSensorFound_of_mem ongoing visited) with ⟨rfl, discovers⟩
    refine ⟨rfl, rfl, ?_⟩
    rcases (client.deals_shutdown schedule ongoing).grown with ⟨later, grown⟩
    rw [← grown, eventsIn_append, noticesIn_append]
    exact discovers.append _

/-- What is known before the first request to acquire a sensor was written down before every
such request. -/
theorem prefix_of_unasked {known before after : List Dealing} {sensor : Descriptor}
    {result : Except AcquireError Handle} (unasked : requestsIn known = [.listed (.ok ())])
    (begins : known <+: before ++ .acquired sensor result :: after) : known <+: before := by
  rcases List.prefix_or_prefix_of_prefix begins (List.prefix_append before _) with
      shorter | longer
  · exact shorter
  · rcases longer with ⟨rest, rfl⟩
    rcases begins with ⟨others, same⟩
    rw [List.append_assoc, List.append_cancel_left_eq] at same
    cases rest with
    | nil => exact ⟨[], by simp⟩
    | cons first more =>
        cases same
        rw [requestsIn_append] at unasked
        have member : Dealing.acquired sensor result ∈ [.listed (.ok ())] := by
          rw [← unasked]
          simp [requestsIn, Dealing.isRequest]
        simp at member

/-- A run that shuts down after it has tried to connect. -/
theorem Conduct.of_tried {outcome : Except Mishap RunReport} {sensor : Descriptor}
    {results : List (Except AcquireError Handle)}
    (tried : Tried schedule config source client sensor results)
    (state : client.state = .connectFailed ∨ client.state = .streaming)
    (successful : (∃ report : RunReport, outcome = .ok report) ↔
      ∃ handle : Handle, .ok handle ∈ results)
    (reported : ∀ report : RunReport, outcome = .ok report →
      report.sensor = sensor ∧ .ok report.handle ∈ results ∧
        report.observation.totals.accepted = report.observation.seen.length ∧
        report.observation.totals.accepted = report.observation.totals.perSensor.total) :
    Conduct config outcome (client.shutdown schedule).2 (.ok ())
      (results.map fun result => (sensor, result)) := by
  have ongoing : client.state ≠ .terminated := by
    rcases state with state | state <;> rw [state] <;> exact ClientState.noConfusion
  have requests := (tried.underway.closed ongoing).requests_eq
  constructor
  case requests =>
    rw [requests, List.map_map]
    rfl
  case listed => exact fun _ => rfl
  case chosen =>
    intro before after asked result split
    have same : asked = sensor := by
      have member : Dealing.acquired asked result ∈
          .listed (.ok ()) :: results.map (.acquired sensor) ++ [.shutDown] := by
        rw [← requests, split, requestsIn_append]
        simp [requestsIn, Dealing.isRequest]
      have asks : Dealing.acquired asked result ∈ results.map (.acquired sensor) := by
        simpa using member
      rcases List.mem_map.1 asks with ⟨_, _, same⟩
      cases same
      rfl
    rcases tried.chosen with ⟨known, others, begins, unasked, discovers⟩
    have begun := begins.trans (client.deals_shutdown schedule ongoing).grown
    rw [split] at begun
    rcases prefix_of_unasked unasked begun with ⟨later, rfl⟩
    rw [eventsIn_append, noticesIn_append, same]
    exact ⟨others, discovers.append _⟩
  case persistent =>
    rw [List.map_map]
    exact (List.map_id results).symm ▸ tried.persistent
  case path => exact tried.underway.path_shutdown ongoing
  case successful =>
    rw [successful]
    simp
  case reported =>
    intro report done
    rcases reported report done with ⟨same, reached, accepted⟩
    exact ⟨List.mem_map.2 ⟨_, reached, Prod.ext same.symm rfl⟩, accepted⟩
  case empty =>
    intro visited
    have none := tried.underway.noSensorFound_of_mem ongoing visited
    rcases state with state | state <;> cases state.symm.trans none

/-- Whatever the source does, a run asks it to list once, to acquire the sensor that was
found first in a limited number of attempts, and to shut down once at last.  It is successful
exactly if one of the attempts was, and it reports that attempt and what was observed. -/
theorem exists_conduct (schedule : Schedule (Journal (Ledger Source))) (config : Config)
    (source : Source)
    (fits : ∀ tick, deadlineFits (schedule.clock tick) config.streamWindow = true) :
    ∃ (listing : Except ClientError Unit)
      (attempts : List (Descriptor × Except AcquireError Handle)),
      Conduct config (run schedule config (.start (.start source))).1
        (run schedule config (.start (.start source))).2 listing attempts := by
  have running := running_run schedule config (Journal.start (Ledger.start source))
  generalize run schedule config (Journal.start (Ledger.start source)) = ran at running ⊢
  rcases ran with ⟨outcome, last⟩
  cases running with
  | unlisted refused =>
      have underway : Underway schedule config source _ _ := .start
      have state := state_of_refused refused
      rw [refused] at underway
      refine ⟨_, [], .of_untried underway ?_ ?_⟩
      · rw [state]
        exact ClientState.noConfusion
      · intro empty
        cases state.symm.trans empty
  | undiscovered started missed =>
      have underway := started.awaiting
      rw [missed] at underway
      refine ⟨_, [], .of_untried underway ?_ ?_⟩
      · rcases started.missed missed with state | ⟨state, _⟩ <;> rw [state] <;>
          exact ClientState.noConfusion
      · intro empty
        rcases started.missed missed with state | ⟨state, same, none⟩
        · cases state.symm.trans empty
        · have discovers := started.discovers
          rw [missed] at discovers
          simp only [state, none] at discovers
          exact ⟨same, discovers nofun nofun⟩
  | unconnected found failed =>
      rcases found.tried with ⟨sensor, results, _, tried, reaches⟩
      have state := found.state_of_failed failed
      rw [failed] at tried reaches
      refine ⟨_, _, .of_tried tried (.inl state) ?_ nofun⟩
      simp [← reaches]
  | unstreamed connected failed =>
      rcases connected.streams fits with ⟨observation, streams, _⟩
      rw [failed] at streams
      cases streams
  | unlinked streamed missing =>
      rcases streamed.tried with ⟨sensor, results, tried, reached, linked, state, totals⟩
      cases linked.symm.trans missing
  | @reported handle _ _ _ _ streamed present =>
      rcases streamed.tried with ⟨sensor, results, tried, reached, linked, state, totals⟩
      cases linked.symm.trans present
      refine ⟨_, _, .of_tried tried (.inr state) ?_ ?_⟩
      · exact ⟨fun _ => ⟨handle, reached⟩, fun _ => ⟨_, rfl⟩⟩
      · intro report done
        cases done
        rw [totals]
        exact ⟨rfl, reached, Totals.accepted_ofSamples _, Totals.total_ofSamples _⟩

/-- A run whose second attempt to connect is successful. -/
theorem exists_conduct_of_second_attempt :
    ∃ (report : RunReport) (listing : Except ClientError Unit)
      (attempts : List (Descriptor × Except AcquireError Handle)),
      Conduct (narrow .zero ⟨1⟩ ⟨30⟩) (.ok report)
        (run .patient (narrow .zero ⟨1⟩ ⟨30⟩) (.start (.start early))).2 listing attempts := by
  have fits : deadlineFits 1000000000 (narrow .zero ⟨1⟩ ⟨30⟩).streamWindow = true := by
    decide +kernel
  have conduct := exists_conduct .patient (narrow .zero ⟨1⟩ ⟨30⟩) early fun _ => fits
  have done : (figures (run .patient (narrow .zero ⟨1⟩ ⟨30⟩)
      (Journal.start (Ledger.start early))).1).isSome = true := by decide +kernel
  generalize run .patient (narrow .zero ⟨1⟩ ⟨30⟩) (Journal.start (Ledger.start early)) = ran
    at conduct done ⊢
  rcases ran with ⟨outcome, last⟩
  cases outcome with
  | error mishap => cases done
  | ok report => exact ⟨report, conduct⟩

end Conduct

end Client

end SensorStream
