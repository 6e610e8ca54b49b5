import SensorStream.Proofs.SampleStream

/-!
# The race at the end of discovery

A client that waits for discovery reads the tracker first, and then whether the
dispatcher is still running.  Between the two readings the dispatcher may complete the
cycle and come to its end; the client then takes a complete discovery for a failed one.
Nothing else makes it do so: a dispatcher that was at its end before the tracker was
read has left an incomplete cycle behind.
-/

namespace SensorStream

/-! ## Which discovery events complete a cycle -/

/-- The whole was reported. -/
def Notice.Completes : Notice → Prop
  | .found _ => False
  | .progress fraction => 1 ≤ fraction

namespace Tracker

theorem complete_record (tracker : Tracker) (notice : Notice) :
    (tracker.record notice).complete = true ↔ tracker.complete = true ∨ notice.Completes := by
  cases complete : tracker.complete with
  | true => simp [record_of_complete complete, complete]
  | false =>
      cases notice with
      | found sensor => simp [record, recordFound, complete, Notice.Completes]
      | progress fraction => simp [record, recordProgress, complete, Notice.Completes]

/-- A cycle is complete once any of the recorded events completed it. -/
theorem complete_foldl_record (tracker : Tracker) (notices : List Notice) :
    (notices.foldl record tracker).complete = true ↔
      tracker.complete = true ∨ ∃ notice ∈ notices, notice.Completes := by
  induction notices generalizing tracker with
  | nil => simp
  | cons notice later ih =>
      rw [List.foldl_cons, ih, complete_record, or_assoc]
      simp

/-- The sensors are hidden as long as the cycle is incomplete. -/
theorem complete_of_sensors?_none {tracker : Tracker} (hidden : tracker.sensors? = none) :
    tracker.complete = false := by
  rw [sensors?] at hidden
  split at hidden
  · cases hidden
  · rename_i incomplete
    simpa using incomplete

end Tracker

/-! ## The last look -/

section LastLook

variable {Source : Type} [EventSource Source]

/-- A wait that finds the dispatcher at its end has looked at the tracker before. -/
theorem Scene.watchDiscovery_of_dispatcherEnded {schedule : Schedule Source} {poll : Nat}
    {poll_pos : 0 < poll} {remaining : Nat} {scene : Scene Source}
    (outcome : (scene.watchDiscovery schedule poll poll_pos remaining).1 = .dispatcherEnded) :
    ∃ look : Scene Source, Moves scene.pipeline look.pipeline ∧
      look.pipeline.tracker.complete = false ∧
      (scene.watchDiscovery schedule poll poll_pos remaining).2 = look.between schedule ∧
      (look.between schedule).pipeline.dispatcher.isRunning = false := by
  fun_induction watchDiscovery with
  | case1 => cases outcome
  | case2 remaining scene look hidden again ended =>
      exact ⟨look, moves_between schedule scene, Tracker.complete_of_sensors?_none hidden, rfl,
        by simpa using ended⟩
  | case3 => cases outcome
  | case4 remaining scene look hidden again running left nap ih =>
      rcases ih outcome with ⟨last, moves, found⟩
      have looks : Moves scene.pipeline again.pipeline :=
        (moves_between schedule scene).trans (moves_between schedule look)
      exact ⟨last, (looks.trans (moves_sleep schedule nap again)).trans moves, found⟩

theorem Client.awaitDiscovery_of_dispatcherEnded {schedule : Schedule Source}
    {client : Client Source} {scene : Scene Source} (working : client.scene? = some scene)
    (failed : (client.awaitDiscovery schedule).1 = .error (.error dispatcherEndedError)) :
    ∃ look : Scene Source, Moves scene.pipeline look.pipeline ∧
      look.pipeline.tracker.complete = false ∧
      (client.awaitDiscovery schedule).2.scene? = some (look.between schedule) ∧
      (look.between schedule).pipeline.dispatcher.isRunning = false := by
  rw [awaitDiscovery] at failed ⊢
  by_cases astray : client.state ≠ .discovering
  · rw [if_pos astray] at failed
    cases failed
  rw [if_neg astray] at failed ⊢
  by_cases endless :
      (!deadlineFits (schedule.clock client.tick) client.config.discoveryTimeout) = true
  · rw [if_pos endless] at failed
    cases failed
  rw [if_neg endless, working] at failed ⊢
  simp only at failed ⊢
  cases watched : scene.watchDiscovery schedule client.config.discoveryPoll.nanoseconds
      client.config_sane.poll client.config.discoveryTimeout.nanoseconds with
  | mk outcome later =>
      rw [watched] at failed
      cases outcome with
      | complete sensors =>
          simp only [concludeDiscovery] at failed
          split at failed <;> cases failed
      | timedOut => cases failed
      | dispatcherEnded =>
          rcases Scene.watchDiscovery_of_dispatcherEnded (congrArg Prod.fst watched) with
              ⟨look, moves, incomplete, found, ended⟩
          rw [watched] at found
          exact ⟨look, moves, incomplete, congrArg some found, ended⟩

/-- Connecting does not fail with the error of a discovery. -/
theorem Client.connect_ne_dispatcherEnded (schedule : Schedule Source) (client : Client Source)
    (index : Nat) : (client.connect schedule index).1 ≠ .error dispatcherEndedError := by
  intro failed
  rw [connect] at failed
  split at failed
  · cases failed
  · split at failed
    · cases failed
    · simp only at failed
      split at failed <;> cases failed

/-- Nor do streaming and shutting down. -/
theorem Client.streamToEnd_ne_dispatcherEnded (schedule : Schedule Source)
    (client : Client Source) (handle : Handle) :
    (client.streamToEnd schedule handle).1 ≠ .error (.error dispatcherEndedError) := by
  intro failed
  cases streamed : client.stream schedule with
  | mk outcome streaming =>
      simp only [streamToEnd, streamed] at failed
      cases outcome with
      | ok observation =>
          simp only at failed
          split at failed <;> cases failed
      | error mishap =>
          cases failed
          rw [stream] at streamed
          split at streamed
          · cases streamed
          · simp only at streamed
            split at streamed
            · cases streamed
            · split at streamed <;> cases streamed

/-- The last look of a wait for discovery that failed because the dispatcher was found
at its end. -/
structure Client.LastLook (schedule : Schedule (Journal Source))
    (client : Client (Journal Source)) (look : Scene (Journal Source)) : Prop where
  /-- The tracker was read, the dispatcher acted, and then it was found at its end. -/
  found : (client.awaitDiscovery schedule).2.scene? = some (look.between schedule)
  incomplete : look.pipeline.tracker.complete = false
  ended : (look.between schedule).pipeline.dispatcher.isRunning = false
  /-- Discovery is complete after all exactly if a completing event was handled. -/
  handled : (look.between schedule).pipeline.tracker.complete = true ↔
    ∃ notice ∈ noticesIn (look.between schedule).pipeline.source.taken, notice.Completes
  /-- Such an event was still to be recorded when the tracker was read, or was taken
  only afterwards. -/
  overtaken : ∃ later : List Event,
    (look.between schedule).pipeline.source.taken = look.pipeline.source.taken ++ later ∧
      ((look.between schedule).pipeline.tracker.complete = true ↔
        ∃ notice ∈ look.pipeline.dispatcher.phase.unrecorded ++ noticesIn later,
          notice.Completes)
  /-- A dispatcher that was at its end when the tracker was read left discovery
  incomplete. -/
  settled : look.pipeline.dispatcher.isRunning = false →
    (look.between schedule).pipeline.tracker.complete = false

/-- A dispatcher at its end leaves the tracker alone. -/
theorem Lasting.at_end (tracker : Tracker) :
    Lasting fun pipeline : Pipeline (Journal Source) =>
      pipeline.dispatcher.isRunning = false ∧ pipeline.tracker = tracker where
  step := by
    rintro pipeline ⟨halted, same⟩
    rcases Dispatcher.phase_of_not_running halted with ⟨exit, phase⟩
    have stays : pipeline.step = pipeline := by
      simp only [Pipeline.step, Dispatcher.step, phase]
    rw [stays]
    exact ⟨halted, same⟩
  source := fun _ before => before

theorem Serving.lastLook {every : UInt64} {handed : List StreamedSample}
    {schedule : Schedule (Journal Source)} {client : Client (Journal Source)}
    {look : Scene (Journal Source)} (serving : Serving .fresh every handed look.pipeline)
    (found : (client.awaitDiscovery schedule).2.scene? = some (look.between schedule))
    (incomplete : look.pipeline.tracker.complete = false)
    (ended : (look.between schedule).pipeline.dispatcher.isRunning = false) :
    client.LastLook schedule look := by
  have moves := look.moves_between schedule
  have after := (serving_lasting .fresh every handed).moves moves serving
  rcases serving.counted.recorded with ⟨recorded, split, tracked⟩
  rcases after.counted.recorded with ⟨all, allSplit, allTracked⟩
  -- At its end the dispatcher has recorded every discovery event that it took.
  rcases Dispatcher.phase_of_not_running ended with ⟨exit, phase⟩
  simp only [phase, Phase.unrecorded, List.append_nil] at allSplit
  have handled : (look.between schedule).pipeline.tracker.complete = true ↔
      ∃ notice ∈ noticesIn (look.between schedule).pipeline.source.taken, notice.Completes := by
    rw [allTracked, allSplit, Tracker.complete_foldl_record]
    simp [Tracker.fresh]
  have before : ¬∃ notice ∈ recorded, notice.Completes := by
    intro completing
    have complete := (Tracker.complete_foldl_record .fresh recorded).2 (.inr completing)
    rw [← tracked, incomplete] at complete
    cases complete
  rcases look.taken_between schedule with ⟨later, grown⟩
  refine ⟨found, incomplete, ended, handled, ⟨later, grown.symm, ?_⟩, ?_⟩
  · rw [handled, ← grown, noticesIn_append, split, List.append_assoc]
    constructor
    · rintro ⟨notice, member, completes⟩
      rcases List.mem_append.1 member with earlier | overtaking
      · exact absurd ⟨notice, earlier, completes⟩ before
      · exact ⟨notice, overtaking, completes⟩
    · rintro ⟨notice, member, completes⟩
      exact ⟨notice, List.mem_append_right recorded member, completes⟩
  · intro halted
    have same := (Lasting.at_end look.pipeline.tracker).moves moves ⟨halted, rfl⟩
    rw [same.2]
    exact incomplete

end LastLook

namespace Session

variable {Source : Type} [EventSource Source] {schedule : Schedule (Journal Source)}
  {config : Config} {source : Source}

theorem Reachable.lastLook {session : Session Source}
    (reachable : Reachable schedule config source session)
    (failed : (session.client.awaitDiscovery schedule).1 =
      .error (.error Client.dispatcherEndedError)) :
    ∃ look : Scene (Journal Source), session.client.LastLook schedule look := by
  cases reachable.faithful with
  | closed _ terminated _ =>
      simp only [Client.awaitDiscovery, terminated] at failed
      cases failed
  | serving working serving =>
      rcases Client.awaitDiscovery_of_dispatcherEnded working failed with
          ⟨look, moves, incomplete, found, ended⟩
      have still := (serving_lasting .fresh _ _).moves moves serving
      exact ⟨look, still.lastLook found incomplete ended⟩

/-- A run whose dispatcher was found at its end during discovery fails there, unless
the source refused to list with the same words. -/
theorem awaitDiscovery_of_run
    (failed : (Client.run schedule config (.start source)).1 =
      .error (.error Client.dispatcherEndedError)) :
    ((Client.new config (.start source)).start schedule).1 =
        .error Client.dispatcherEndedError ∨
      ((start schedule config source).client.awaitDiscovery schedule).1 =
        .error (.error Client.dispatcherEndedError) := by
  rw [Client.run] at failed
  rw [start]
  cases started : (Client.new config (Journal.start source)).start schedule with
  | mk result client =>
      rw [started] at failed
      cases result with
      | error error =>
          cases failed
          exact .inl rfl
      | ok _ =>
          refine .inr ?_
          simp only at failed ⊢
          cases discovered : client.awaitDiscovery schedule with
          | mk result client =>
              rw [discovered] at failed
              cases result with
              | error mishap =>
                  cases failed
                  rfl
              | ok sensors =>
                  simp only at failed
                  cases attempted : client.connect schedule 0 with
                  | mk result client =>
                      rw [attempted] at failed
                      cases result with
                      | error error =>
                          cases failed
                          exact absurd (congrArg Prod.fst attempted)
                            (Client.connect_ne_dispatcherEnded schedule _ 0)
                      | ok handle =>
                          exact absurd failed
                            (client.streamToEnd_ne_dispatcherEnded schedule handle)

end Session

/-! ## Losing the race -/

/-- The schedule in which the dispatcher does all its work at one moment. -/
def Schedule.onceAt {Source : Type} [EventSource Source] (moment : Nat) : Schedule Source where
  between tick pipeline := if tick = moment then pipeline.settle else pipeline
  idle _ _ _ := none
  lapse _ _ positive pipeline := ⟨0, positive, pipeline⟩
  overlap _ _ := []
  clock _ := 0
  between_moves tick pipeline := by
    split
    · exact Moves.settle pipeline
    · exact .rest pipeline
  idle_moves _ _ _ _ happens := by cases happens
  lapse_moves _ _ _ pipeline := .rest pipeline

namespace Client

/-- A source that lists one sensor and then fails. -/
def shortLived : Script :=
  .ofResults
    [.ok [.event (.found ⟨"LPMS", "a", .simulated, "sim"⟩), .event (.progress 1),
      .failure .sourceClosed]]
    []

/-- A dispatcher that does all its work between the two readings makes a complete
discovery fail, and a run with it. -/
theorem discovery_failure_when_complete :
    (¬∀ (schedule : Schedule Script) (config : Config) (source : Script),
      ((((Client.new config source).start schedule).2).awaitDiscovery schedule).1 =
          .error (.error dispatcherEndedError) →
        ((((Client.new config source).start schedule).2).awaitDiscovery
          schedule).2.tracker.complete = false) ∧
    ¬∀ (schedule : Schedule Script) (config : Config) (source : Script),
      (Client.run schedule config source).1 = .error (.error dispatcherEndedError) →
        (Client.run schedule config source).2.tracker.complete = false := by
  constructor
  · intro honest
    have incomplete := honest (.onceAt 2) .default shortLived (by with_unfolding_all rfl)
    exact absurd incomplete (by decide +kernel)
  · intro honest
    have incomplete := honest (.onceAt 2) .default shortLived (by with_unfolding_all rfl)
    exact absurd incomplete (by decide +kernel)

end Client

/-! ## What a failure means -/

namespace Session

variable {Source : Type} [EventSource Source]

/-- A wait for discovery that finds the dispatcher at its end has looked at the tracker
before, and the two readings disagree exactly if a completing event was recorded in
between.  The same is true of a whole run that fails with this error, unless its source
refused to list with the same words. -/
theorem discovery_failure (schedule : Schedule (Journal Source)) (config : Config)
    (source : Source) :
    (∀ session : Session Source, Reachable schedule config source session →
      (session.client.awaitDiscovery schedule).1 =
        .error (.error Client.dispatcherEndedError) →
      ∃ look : Scene (Journal Source), session.client.LastLook schedule look) ∧
    ((Client.run schedule config (.start source)).1 =
        .error (.error Client.dispatcherEndedError) →
      ((Client.new config (.start source)).start schedule).1 =
          .error Client.dispatcherEndedError ∨
        ∃ look : Scene (Journal Source),
          (start schedule config source).client.LastLook schedule look) := by
  constructor
  · intro session reachable failed
    exact reachable.lastLook failed
  · intro failed
    rcases awaitDiscovery_of_run failed with refused | awaited
    · exact .inl refused
    · exact .inr (Reachable.start.lastLook awaited)

/-- A client that loses the race has such a last look. -/
theorem discovery_failure_of_shortLived :
    ∃ look : Scene (Journal Script),
      (start (.onceAt 2) .default Client.shortLived).client.LastLook (.onceAt 2) look :=
  (discovery_failure (.onceAt 2) .default Client.shortLived).1 _ .start
    (by with_unfolding_all rfl)

end Session

end SensorStream
