import SensorStream.Proofs.Findings
import SensorStream.Proofs.Hearing

/-!
# What a tracker knows of the events that were handled

A dispatcher hands the discovery events among those it handles to its tracker, each in its
turn.  The tracker hides the sensors until the whole was reported, and knows from then on those
that were reported before, whatever is handled later.
-/

namespace SensorStream

/-! ## Discovery events among the others -/

/-- The event that carries a discovery event. -/
def Notice.event : Notice → Event
  | .found sensor => .found sensor
  | .progress fraction => .progress fraction

/-- The fraction that was reported. -/
def Notice.fraction? : Notice → Option Float32
  | .found _ => none
  | .progress fraction => some fraction

/-- The sensor that an event without a handle reports. -/
def Event.report? (event : Event) : Option Descriptor :=
  match event.sensor, event.payload with
  | none, .found sensor => some sensor
  | _, _ => none

theorem Event.notice?_eq_some_iff {event : Event} {notice : Notice} :
    event.notice? = some notice ↔ event = notice.event := by
  constructor
  · intro carried
    rcases event with ⟨_ | handle, sensor | fraction | sample⟩ <;> cases carried <;> rfl
  · rintro rfl
    cases notice <;> rfl

theorem mem_noticesIn {notice : Notice} {events : List Event} :
    notice ∈ noticesIn events ↔ notice.event ∈ events := by
  rw [noticesIn, List.mem_filterMap]
  constructor
  · rintro ⟨event, member, carried⟩
    rwa [← Event.notice?_eq_some_iff.1 carried]
  · intro member
    exact ⟨notice.event, member, Event.notice?_eq_some_iff.2 rfl⟩

theorem filterMap_sensor?_noticesIn (events : List Event) :
    (noticesIn events).filterMap Notice.sensor? = events.filterMap Event.report? := by
  rw [noticesIn, List.filterMap_filterMap]
  congr
  funext event
  rcases event with ⟨_ | handle, sensor | fraction | sample⟩ <;> rfl

/-- One of the events completes a cycle: it reports the whole and has no handle. -/
theorem exists_completes_iff {events : List Event} :
    (∃ notice ∈ noticesIn events, notice.Completes) ↔
      ∃ fraction : Float32, .progress fraction ∈ events ∧ 1 ≤ fraction := by
  constructor
  · rintro ⟨notice, member, completes⟩
    cases notice with
    | found sensor => exact completes.elim
    | progress fraction => exact ⟨fraction, mem_noticesIn.1 member, completes⟩
  · rintro ⟨fraction, member, whole⟩
    exact ⟨.progress fraction, mem_noticesIn.2 member, whole⟩

theorem noticesIn_progress_cons (fraction : Float32) (events : List Event) :
    noticesIn (.progress fraction :: events) = .progress fraction :: noticesIn events := rfl

theorem fractions_eq_nil {events : List Event}
    (silent : ∀ fraction : Float32, .progress fraction ∉ events) :
    (noticesIn events).filterMap Notice.fraction? = [] := by
  rw [List.filterMap_eq_nil_iff]
  intro notice member
  cases notice with
  | found sensor => rfl
  | progress fraction => exact absurd (mem_noticesIn.1 member) (silent fraction)

/-! ## What a tracker knows -/

/-- The value is forced into the interval between two others.  A value on neither side of the
interval, such as NaN, stays as it is. -/
structure Clamps (low high value result : Float32) : Prop where
  below : value < low → result = low
  above : ¬value < low → high < value → result = high
  within : ¬value < low → ¬high < value → result = value

theorem clamps_clampFraction (fraction : Float32) :
    Clamps 0 1 fraction (clampFraction fraction) where
  below less := if_pos less
  above notLess greater := (if_neg notLess).trans (if_pos greater)
  within notLess notGreater := (if_neg notLess).trans (if_neg notGreater)

/-- What a tracker has to say after these events. -/
structure Tracker.Knows (tracker : Tracker) (events : List Event) : Prop where
  complete_iff : tracker.complete = true ↔
    ∃ fraction : Float32, .progress fraction ∈ events ∧ 1 ≤ fraction
  hidden : (∀ fraction : Float32, .progress fraction ∈ events → ¬1 ≤ fraction) →
    tracker.sensors? = none
  /-- Nothing matters that comes after the first report of the whole. -/
  revealed : ∀ (before after : List Event) (fraction : Float32),
    events = before ++ .progress fraction :: after → 1 ≤ fraction →
      (∀ earlier : Float32, .progress earlier ∈ before → ¬1 ≤ earlier) →
        tracker.sensors? = some (before.filterMap Event.report?)
  whole : tracker.complete = true → tracker.progress = 1
  unreported : tracker.complete = false → (∀ fraction : Float32, .progress fraction ∉ events) →
    tracker.progress = 0
  /-- The progress is the last fraction that was reported. -/
  latest : tracker.complete = false → ∀ (before after : List Event) (fraction : Float32),
    events = before ++ .progress fraction :: after →
      (∀ later : Float32, .progress later ∉ after) → Clamps 0 1 fraction tracker.progress

namespace Tracker

theorem lastProgress_record {tracker : Tracker} (incomplete : tracker.complete = false)
    (notice : Notice) :
    (tracker.record notice).lastProgress =
      (notice.fraction?.map clampFraction).getD tracker.lastProgress := by
  cases notice <;> simp [record, recordFound, recordProgress, incomplete, Notice.fraction?]

theorem incomplete_of_record {tracker : Tracker} {notice : Notice}
    (incomplete : (tracker.record notice).complete = false) : tracker.complete = false := by
  rw [← Bool.not_eq_true, complete_record] at incomplete
  exact Bool.not_eq_true _ ▸ fun complete => incomplete (.inl complete)

theorem incomplete_of_foldl_record {tracker : Tracker} {notices : List Notice}
    (incomplete : (notices.foldl record tracker).complete = false) : tracker.complete = false := by
  rw [← Bool.not_eq_true, complete_foldl_record] at incomplete
  exact Bool.not_eq_true _ ▸ fun complete => incomplete (.inl complete)

/-- The progress of an incomplete cycle is the last fraction that was reported. -/
theorem lastProgress_foldl_record {tracker : Tracker} {notices : List Notice}
    (incomplete : (notices.foldl record tracker).complete = false) :
    (notices.foldl record tracker).lastProgress =
      ((notices.filterMap Notice.fraction?).getLast?.map clampFraction).getD
        tracker.lastProgress := by
  induction notices generalizing tracker with
  | nil => rfl
  | cons notice later ih =>
      rw [List.foldl_cons] at incomplete ⊢
      have before := incomplete_of_record (incomplete_of_foldl_record incomplete)
      rw [ih incomplete, lastProgress_record before]
      cases notice with
      | found sensor => rfl
      | progress fraction =>
          change _ = ((fraction :: later.filterMap Notice.fraction?).getLast?.map _).getD _
          rw [List.getLast?_cons]
          cases (later.filterMap Notice.fraction?).getLast? <;> rfl

theorem progress_of_incomplete {tracker : Tracker} (incomplete : tracker.complete = false) :
    tracker.progress = tracker.lastProgress := by
  rw [progress, incomplete]
  rfl

/-- A tracker that starts afresh and is handed the discovery events knows all events. -/
theorem knows_foldl_record (events : List Event) :
    ((noticesIn events).foldl record .fresh).Knows events where
  complete_iff := by
    rw [complete_foldl_record, exists_completes_iff]
    exact or_iff_right Bool.false_ne_true
  hidden goesOn := by
    have incomplete : ((noticesIn events).foldl record .fresh).complete = false := by
      rw [← Bool.not_eq_true, complete_foldl_record, exists_completes_iff]
      rintro (complete | ⟨fraction, member, whole⟩)
      · cases complete
      · exact goesOn fraction member whole
    rw [sensors?, incomplete]
    rfl
  revealed before after fraction split whole goesOn := by
    have earlier : ∀ notice ∈ noticesIn before, ¬notice.Completes := by
      intro notice member completes
      rcases exists_completes_iff.1 ⟨notice, member, completes⟩ with ⟨other, reported, whole⟩
      exact goesOn other reported whole
    rcases @foldl_record_of_incomplete .fresh rfl _ earlier with ⟨incomplete, found⟩
    have completed := (complete_record ((noticesIn before).foldl record .fresh)
      (.progress fraction)).2 (.inr whole)
    rw [split, noticesIn_append, noticesIn_progress_cons, List.foldl_append, List.foldl_cons,
      foldl_record_of_complete completed, sensors?, if_pos completed, found_record incomplete,
      found, filterMap_sensor?_noticesIn]
    exact congrArg some (List.append_nil _)
  whole complete := by
    rw [progress, complete]
    rfl
  unreported incomplete silent := by
    rw [progress_of_incomplete incomplete, lastProgress_foldl_record incomplete,
      fractions_eq_nil silent]
    rfl
  latest incomplete before after fraction split silent := by
    have last : ((noticesIn events).filterMap Notice.fraction?).getLast? = some fraction := by
      rw [split, noticesIn_append, noticesIn_progress_cons, List.filterMap_append,
        List.filterMap_cons, fractions_eq_nil silent]
      exact List.getLast?_concat
    rw [progress_of_incomplete incomplete, lastProgress_foldl_record incomplete, last]
    exact clamps_clampFraction fraction

end Tracker

/-! ## What a dispatcher hands to its tracker -/

/-- The event that is handled just now: it is counted, and not yet recorded. -/
def Phase.underHand : Phase → List Event
  | .recording notice => [notice.event]
  | _ => []

@[simp] theorem Dispatcher.underHand_resume (dispatcher : Dispatcher) (result : WaitResult) :
    (dispatcher.resume result).phase.underHand = [] := by
  unfold resume
  split <;> rfl

theorem Dispatcher.Aside.underHand_eq {dispatcher later : Dispatcher}
    (aside : dispatcher.Aside later) :
    later.phase.underHand = dispatcher.phase.underHand := by
  rcases aside.phase with same | ⟨⟨sample, sending⟩, forwarding⟩
  · rw [same]
  · rw [sending, forwarding]
    rfl

section Handling

variable {Source : Type} [EventSource Source]

/-- The tracker is handed the discovery events that a dispatcher is done with in a step. -/
theorem Pipeline.tracker_step (pipeline : Pipeline Source) :
    ∃ done : List Event,
      pipeline.dispatcher.phase.underHand ++ pipeline.dispatcher.treatment =
          done ++ pipeline.step.dispatcher.phase.underHand ∧
        pipeline.step.tracker = (noticesIn done).foldl Tracker.record pipeline.tracker := by
  have advance := pipeline.advance_step
  generalize pipeline.step = later at advance ⊢
  rw [Dispatcher.treatment]
  cases advance with
  | countNotice phase carried =>
      refine ⟨[], ?_, rfl⟩
      rw [phase, Event.notice?_eq_some_iff.1 carried]
      rfl
  | @countMeasurement event _ _ phase noNotice | @passOver event phase noNotice =>
      refine ⟨[event], ?_, ?_⟩
      · rw [phase]
        rfl
      · rw [noticesIn_singleton, noNotice]
        rfl
  | @record notice phase =>
      refine ⟨[notice.event], ?_, ?_⟩
      · rw [phase]
        rfl
      · rw [noticesIn_singleton, Event.notice?_eq_some_iff.2 rfl]
        rfl
  | wait phase =>
      refine ⟨[], ?_, rfl⟩
      rw [phase, Dispatcher.underHand_resume]
      rfl
  | cancel phase | goOn phase | suppress phase | letThrough phase | lose phase | send phase
    | stall phase | detach phase | giveUp phase | retry phase | countSuppressed phase
    | countForwarded phase | countDropped phase | stay phase =>
      refine ⟨[], ?_, rfl⟩
      simp [phase, Phase.underHand, Dispatcher.finish]

namespace Course

theorem tracker_of_aside {course : Course Source} {occurrence : Occurrence Source}
    (beside : occurrence.isStep = false) :
    (course.next occurrence).pipeline.tracker = course.pipeline.tracker := by
  cases occurrence with
  | step => cases beside
  | receive =>
      rw [next]
      split <;> rfl
  | feed | dropReceiver | requestStop => rfl

theorem tracker_next (course : Course Source) (occurrence : Occurrence Source) :
    ∃ done : List Event,
      course.pipeline.dispatcher.phase.underHand ++ course.treatment occurrence =
          done ++ (course.next occurrence).pipeline.dispatcher.phase.underHand ∧
        (course.next occurrence).pipeline.tracker =
          (noticesIn done).foldl Tracker.record course.pipeline.tracker := by
  cases steps : occurrence.isStep with
  | false =>
      refine ⟨[], ?_, tracker_of_aside steps⟩
      rw [treatment_of_aside steps, List.append_nil, (aside_next steps).underHand_eq]
      rfl
  | true =>
      rcases course.next_of_isStep steps with ⟨next, _, treatment⟩
      rw [next, treatment]
      exact course.pipeline.tracker_step

/-- The tracker is handed the discovery events among those that were handled. -/
theorem tracker_run (course : Course Source) (occurrences : List (Occurrence Source)) :
    ∃ known : List Event,
      course.pipeline.dispatcher.phase.underHand ++ course.handled occurrences =
          known ++ (course.run occurrences).pipeline.dispatcher.phase.underHand ∧
        (course.run occurrences).pipeline.tracker =
          (noticesIn known).foldl Tracker.record course.pipeline.tracker := by
  induction occurrences generalizing course with
  | nil => exact ⟨[], List.append_nil _, rfl⟩
  | cons occurrence later ih =>
      rcases course.tracker_next occurrence with ⟨done, first, tracked⟩
      rcases ih (course.next occurrence) with ⟨known, rest, followed⟩
      refine ⟨done ++ known, ?_, ?_⟩
      · rw [handled_cons, run_cons, ← List.append_assoc, first, List.append_assoc, rest,
          List.append_assoc]
      · rw [run_cons, followed, tracked, noticesIn_append, List.foldl_append]

/-- Whatever a dispatcher has handled since it was started, its tracker knows: the sensors are
hidden until an event without a handle reports the whole, and are from then on those that such
events reported before.  Only an event that is handled just now may not be known yet. -/
theorem exists_knows (every : UInt64) (capacity : Option Nat) (source : Source)
    (occurrences : List (Occurrence Source)) :
    ∃ known : List Event,
      (start every capacity source).handled occurrences =
          known ++
            ((start every capacity source).run occurrences).pipeline.dispatcher.phase.underHand ∧
        ((start every capacity source).run occurrences).pipeline.tracker.Knows known := by
  rcases (start every capacity source).tracker_run occurrences with ⟨known, handled, tracked⟩
  refine ⟨known, handled, ?_⟩
  rw [tracked]
  exact Tracker.knows_foldl_record known

end Course

end Handling

end SensorStream
