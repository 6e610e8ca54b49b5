import SensorStream.Proofs.DiscoveryRace

/-!
# What discovery finds

A discovery cycle finds the sensors that are reported before the first event that completes
it.  A client that has concluded discovery keeps these, in the order of the reports.
-/

namespace SensorStream

/-! ## What a discovery cycle finds -/

/-- The sensor that was reported. -/
def Notice.sensor? : Notice → Option Descriptor
  | .found sensor => some sensor
  | .progress _ => none

/-- The discovery events complete a cycle, and these sensors were reported before the
first of them that completes it. -/
def Discovers (notices : List Notice) (sensors : List Descriptor) : Prop :=
  ∃ (before : List Notice) (completing : Notice) (after : List Notice),
    notices = before ++ completing :: after ∧ completing.Completes ∧
      (∀ notice ∈ before, ¬notice.Completes) ∧ sensors = before.filterMap Notice.sensor?

namespace Discovers

theorem append {notices : List Notice} {sensors : List Descriptor}
    (discovers : Discovers notices sensors) (later : List Notice) :
    Discovers (notices ++ later) sensors := by
  rcases discovers with ⟨before, completing, after, rfl, rest⟩
  exact ⟨before, completing, after ++ later, List.append_assoc .., rest⟩

theorem cons {notice : Notice} {notices : List Notice} {sensors : List Descriptor}
    (discovers : Discovers notices sensors) (goesOn : ¬notice.Completes) :
    Discovers (notice :: notices) (notice.sensor?.toList ++ sensors) := by
  rcases discovers with ⟨before, completing, after, rfl, completes, earlier, rfl⟩
  refine ⟨notice :: before, completing, after, rfl, completes, ?_, ?_⟩
  · intro other member
    rcases List.mem_cons.1 member with rfl | member
    · exact goesOn
    · exact earlier other member
  · cases carried : notice.sensor? <;> simp [carried]

end Discovers

namespace Tracker

theorem foldl_record_of_complete {tracker : Tracker} (complete : tracker.complete = true)
    (notices : List Notice) : notices.foldl record tracker = tracker := by
  induction notices with
  | nil => rfl
  | cons notice later ih =>
      rw [List.foldl_cons, record_of_complete complete]
      exact ih

theorem found_record {tracker : Tracker} (incomplete : tracker.complete = false)
    (notice : Notice) : (tracker.record notice).found = tracker.found ++ notice.sensor?.toList := by
  cases notice <;> simp [record, recordFound, recordProgress, incomplete, Notice.sensor?]

/-- As long as nothing completes the cycle, all sensors that are reported are kept. -/
theorem foldl_record_of_incomplete {tracker : Tracker} (incomplete : tracker.complete = false)
    {notices : List Notice} (goesOn : ∀ notice ∈ notices, ¬notice.Completes) :
    (notices.foldl record tracker).complete = false ∧
      (notices.foldl record tracker).found =
        tracker.found ++ notices.filterMap Notice.sensor? := by
  induction notices generalizing tracker with
  | nil => exact ⟨incomplete, (List.append_nil _).symm⟩
  | cons notice later ih =>
      have still : (tracker.record notice).complete = false := by
        rw [← Bool.not_eq_true, complete_record, incomplete]
        simpa using goesOn notice (List.mem_cons_self ..)
      rcases ih still fun other member => goesOn other (List.mem_cons_of_mem _ member) with
        ⟨last, found⟩
      refine ⟨last, ?_⟩
      rw [List.foldl_cons, found, found_record incomplete, List.append_assoc]
      cases carried : notice.sensor? <;> simp [carried]

/-- A tracker that events have completed has kept the sensors that they discover. -/
theorem discovers_of_complete {tracker : Tracker} (incomplete : tracker.complete = false)
    {notices : List Notice} (complete : (notices.foldl record tracker).complete = true) :
    ∃ sensors : List Descriptor, Discovers notices sensors ∧
      (notices.foldl record tracker).found = tracker.found ++ sensors := by
  induction notices generalizing tracker with
  | nil => cases incomplete.symm.trans complete
  | cons notice later ih =>
      rw [List.foldl_cons] at complete ⊢
      have found := found_record incomplete notice
      by_cases completes : notice.Completes
      · have completed := (complete_record tracker notice).2 (.inr completes)
        refine ⟨[], ⟨[], notice, later, rfl, completes, nofun, rfl⟩, ?_⟩
        rw [foldl_record_of_complete completed, found]
        cases notice with
        | found sensor => exact completes.elim
        | progress fraction => rfl
      · have still : (tracker.record notice).complete = false := by
          rw [← Bool.not_eq_true, complete_record, incomplete]
          simpa using completes
        rcases ih still complete with ⟨sensors, discovers, kept⟩
        refine ⟨notice.sensor?.toList ++ sensors, discovers.cons completes, ?_⟩
        rw [kept, found, List.append_assoc]

end Tracker

/-! ## What a client keeps -/

section Findings

variable {Source : Type} [EventSource Source]

theorem Scene.watchDiscovery_of_complete {schedule : Schedule Source} {poll : Nat}
    {poll_pos : 0 < poll} {remaining : Nat} {scene : Scene Source} {sensors : List Descriptor}
    (outcome : (scene.watchDiscovery schedule poll poll_pos remaining).1 = .complete sensors) :
    (scene.watchDiscovery schedule poll poll_pos remaining).2.pipeline.tracker.sensors? =
      some sensors := by
  fun_induction watchDiscovery with
  | case1 remaining scene look found complete =>
      cases outcome
      exact complete
  | case2 => cases outcome
  | case3 => cases outcome
  | case4 remaining scene look hidden again running left nap ih => exact ih outcome

/-- A wait for discovery is concluded with the sensors of a complete tracker.  Otherwise it leaves
the client where it was, and the reason is not that there are no sensors. -/
theorem Client.awaitDiscovery_cases {schedule : Schedule Source} {client : Client Source}
    {scene : Scene Source} (working : client.scene? = some scene)
    (state : client.state = .discovering) :
    (∃ (sensors : List Descriptor) (later : Client Source),
      later.tracker.sensors? = some sensors ∧
        client.awaitDiscovery schedule = later.concludeDiscovery sensors) ∨
    ∃ (mishap : Mishap) (later : Client Source),
      client.awaitDiscovery schedule = (.error mishap, later) ∧ later.state = .discovering ∧
        mishap ≠ .error .noSensorFound := by
  rw [awaitDiscovery, if_neg (not_not_intro state)]
  cases deadlineFits (schedule.clock client.tick) client.config.discoveryTimeout with
  | false => exact .inr ⟨_, _, rfl, state, by decide⟩
  | true =>
      simp only [Bool.not_true, Bool.false_eq_true, if_false, working]
      cases watched : scene.watchDiscovery schedule client.config.discoveryPoll.nanoseconds
          client.config_sane.poll client.config.discoveryTimeout.nanoseconds with
      | mk outcome last =>
          cases outcome with
          | complete sensors =>
              have known := Scene.watchDiscovery_of_complete (congrArg Prod.fst watched)
              rw [watched] at known
              exact .inl ⟨sensors, client.absorb last, known, rfl⟩
          | dispatcherEnded => exact .inr ⟨_, _, rfl, state, by decide⟩
          | timedOut => exact .inr ⟨_, _, rfl, state, by decide⟩

/-- A client that has concluded discovery has the sensors of its tracker. -/
theorem Client.awaitDiscovery_concludes {schedule : Schedule Source} {client : Client Source}
    {scene : Scene Source} (working : client.scene? = some scene)
    (state : client.state = .discovering)
    (concluded : (client.awaitDiscovery schedule).2.state ≠ .discovering) :
    (client.awaitDiscovery schedule).2.tracker.sensors? =
      some (client.awaitDiscovery schedule).2.sensors := by
  rcases awaitDiscovery_cases working state with
      ⟨sensors, later, complete, concludes⟩ | ⟨mishap, later, missed, ongoing, _⟩
  · rw [concludes, concludeDiscovery]
    split <;> exact complete
  · rw [missed] at concluded
    exact absurd ongoing concluded

/-- The sensors of a complete tracker were discovered by the events that were taken. -/
theorem Session.Reachable.discovers {schedule : Schedule (Journal Source)} {config : Config}
    {source : Source} {session : Session Source} {sensors : List Descriptor}
    (reachable : Session.Reachable schedule config source session)
    (ongoing : session.client.state ≠ .terminated)
    (known : session.client.tracker.sensors? = some sensors) :
    Discovers (noticesIn session.client.source.taken) sensors := by
  cases reachable.faithful with
  | closed _ terminated => exact absurd terminated ongoing
  | serving working serving =>
      rcases Option.map_eq_some_iff.1 working with ⟨dispatcher, employed, rfl⟩
      rcases serving.counted.recorded with ⟨recorded, split, tracked⟩
      simp only at split tracked
      rw [Tracker.sensors?] at known
      split at known
      · rename_i complete
        cases known
        rw [tracked] at complete
        rcases Tracker.discovers_of_complete rfl complete with ⟨sensors, discovers, found⟩
        rw [tracked, found, split]
        exact discovers.append _
      · cases known

end Findings

end SensorStream
