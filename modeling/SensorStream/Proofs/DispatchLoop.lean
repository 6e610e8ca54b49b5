import SensorStream.Proofs.Hearing
import SensorStream.Proofs.Interleaving

/-!
# The loop of a dispatcher

A dispatcher ends at the first error that it hears, or when it was asked to stop.  A request to
stop may come at any moment; from then on the dispatcher hears one more answer at most, which is
the answer to a wait that it had begun before, and a full channel does not keep it any more.
-/

namespace SensorStream

namespace Phase

/-- How many waits a dispatcher still makes that was asked to stop. -/
def waitsAhead : Phase → Nat
  | .waiting => 1
  | _ => 0

/-- How many events it still handles. -/
def eventsAhead : Phase → Nat
  | .waiting => 1
  | .handling _ => 1
  | _ => 0

/-- How many steps lie ahead of the next wait, if nothing comes in between. -/
def approach : Phase → Nat
  | .ended _ => 0
  | .waiting => 0
  | .checking => 1
  | .recording _ => 2
  | .suppressing => 2
  | .forwarding => 2
  | .dropping => 2
  | .delivering _ => 3
  | .stalled _ => 4
  | .admitting _ _ => 4
  | .handling _ => 5

theorem distance_le (phase : Phase) : phase.distance ≤ 7 := by
  cases phase <;> simp [distance]

theorem waitsAhead_le (phase : Phase) : phase.waitsAhead ≤ 1 := by
  cases phase <;> simp [waitsAhead]

theorem approach_le (phase : Phase) : phase.approach ≤ 5 := by
  cases phase <;> simp [approach]

end Phase

/-! ## After a request to stop -/

/-- So many answers were heard, so many events were handled and so many steps were taken on the
way from one phase to another, by a dispatcher that was asked to stop. -/
structure Phase.Closing (phase later : Phase) (heard handled steps : Nat) : Prop where
  heard : heard + later.waitsAhead ≤ phase.waitsAhead
  handled : handled + later.eventsAhead ≤ phase.eventsAhead
  steps : later.distance ≤ phase.distance - steps

theorem Phase.Closing.trans {first middle last : Phase}
    {heard handled steps moreHeard moreHandled moreSteps : Nat}
    (before : first.Closing middle heard handled steps)
    (after : middle.Closing last moreHeard moreHandled moreSteps) :
    first.Closing last (heard + moreHeard) (handled + moreHandled) (steps + moreSteps) := by
  rcases before with ⟨heardBefore, handledBefore, stepsBefore⟩
  rcases after with ⟨heardAfter, handledAfter, stepsAfter⟩
  constructor <;> omega

theorem Phase.Closing.ended {phase : Phase} {dispatcher : Dispatcher} {heard handled steps : Nat}
    (closing : phase.Closing dispatcher.phase heard handled steps)
    (enough : phase.distance ≤ steps) : dispatcher.isRunning = false := by
  rw [Dispatcher.isRunning, Option.isNone_eq_false_iff, Option.isSome_iff_ne_none]
  intro running
  refine Dispatcher.distance_of_running running (Nat.le_zero.1 ?_)
  exact Nat.le_trans closing.steps (Nat.le_of_eq (Nat.sub_eq_zero_of_le enough))

theorem Dispatcher.Aside.closing {dispatcher later : Dispatcher} (aside : dispatcher.Aside later) :
    dispatcher.phase.Closing later.phase 0 0 0 := by
  rcases aside.phase with same | ⟨⟨sample, sending⟩, forwarding⟩
  · rw [same]
    exact ⟨Nat.le_of_eq (Nat.zero_add _), Nat.le_of_eq (Nat.zero_add _), Nat.le_refl _⟩
  · rw [sending, forwarding]
    constructor <;> simp [Phase.waitsAhead, Phase.eventsAhead, Phase.distance]

section Closing

variable {Source : Type} [EventSource Source]

theorem Dispatcher.closing_resume (dispatcher : Dispatcher) (result : WaitResult) :
    Phase.waiting.Closing (dispatcher.resume result).phase 1 0 1 := by
  unfold resume
  split <;> constructor <;> simp [finish, Phase.waitsAhead, Phase.eventsAhead, Phase.distance]

theorem Pipeline.closing_step {pipeline : Pipeline Source}
    (requested : pipeline.dispatcher.stopRequested = true) :
    pipeline.dispatcher.phase.Closing pipeline.step.dispatcher.phase pipeline.answer.length
      pipeline.dispatcher.treatment.length 1 := by
  have advance := pipeline.advance_step
  generalize pipeline.step = later at advance ⊢
  rw [Pipeline.answer, Dispatcher.treatment]
  cases advance with
  | goOn phase unrequested | retry phase unrequested =>
      cases requested.symm.trans unrequested
  | wait phase =>
      simp only [phase]
      exact Dispatcher.closing_resume _ _
  | cancel phase | countNotice phase | countMeasurement phase | passOver phase
    | record phase | suppress phase | letThrough phase | lose phase | send phase | stall phase
    | detach phase | giveUp phase | countSuppressed phase | countForwarded phase
    | countDropped phase | stay phase =>
      simp only [phase, Dispatcher.finish]
      constructor <;> simp [Phase.waitsAhead, Phase.eventsAhead, Phase.distance]

namespace Course

variable {course : Course Source}

theorem closing_next (requested : course.pipeline.dispatcher.stopRequested = true)
    (occurrence : Occurrence Source) :
    course.pipeline.dispatcher.phase.Closing (course.next occurrence).pipeline.dispatcher.phase
        (course.answer occurrence).length (course.treatment occurrence).length
        occurrence.isStep.toNat ∧
      (course.next occurrence).pipeline.dispatcher.stopRequested = true := by
  cases steps : occurrence.isStep with
  | false =>
      rw [answer_of_aside steps, treatment_of_aside steps]
      exact ⟨(aside_next steps).closing, (aside_next steps).requested requested⟩
  | true =>
      rcases course.next_of_isStep steps with ⟨next, answer, treatment⟩
      rw [next, answer, treatment]
      exact ⟨Pipeline.closing_step requested, (Pipeline.stopRequested_step _).trans requested⟩

/-- Whatever happens after a request to stop, it leads to the end. -/
theorem closing_run (requested : course.pipeline.dispatcher.stopRequested = true)
    (occurrences : List (Occurrence Source)) :
    course.pipeline.dispatcher.phase.Closing (course.run occurrences).pipeline.dispatcher.phase
      (course.heard occurrences).length (course.handled occurrences).length
      (occurrences.countP Occurrence.isStep) := by
  induction occurrences generalizing course with
  | nil => exact ⟨Nat.le_of_eq (Nat.zero_add _), Nat.le_of_eq (Nat.zero_add _), Nat.le_refl _⟩
  | cons occurrence later ih =>
      rcases closing_next requested occurrence with ⟨closing, still⟩
      have whole := closing.trans (ih still)
      rw [run_cons, heard_cons, handled_cons, List.length_append, List.length_append,
        List.countP_cons]
      cases steps : occurrence.isStep with
      | false =>
          rw [steps] at whole
          simpa using whole
      | true =>
          rw [steps, Bool.toNat_true, Nat.add_comm 1] at whole
          exact whole

end Course

/-! ## Joining -/

/-- Running a dispatcher to its end is to let it take steps. -/
theorem Course.exists_run_runToEnd (course : Course Source)
    (requested : course.pipeline.dispatcher.stopRequested = true) :
    ∃ steps : Nat, (course.run (List.replicate steps .step)).pipeline =
      (course.pipeline.runToEnd requested).2 := by
  generalize same : course.pipeline = pipeline at requested ⊢
  fun_induction Pipeline.runToEnd pipeline requested generalizing course with
  | case1 pipeline requested exit ended => exact ⟨0, same⟩
  | case2 pipeline requested running ih =>
      rcases ih (course.next .step) (congrArg Pipeline.step same) with ⟨steps, reached⟩
      exact ⟨steps + 1, reached⟩

/-! ## Getting on -/

/-- A dispatcher that nobody has asked to stop comes nearer to its next wait, unless it is
there or holds a sample for which the channel has no room. -/
theorem Pipeline.approach_step {pipeline : Pipeline Source}
    (running : pipeline.dispatcher.exit? = none)
    (unrequested : pipeline.dispatcher.stopRequested = false)
    (free : pipeline.dispatcher.held? = none) (elsewhere : pipeline.dispatcher.phase ≠ .waiting) :
    pipeline.step.dispatcher.phase.approach < pipeline.dispatcher.phase.approach ∧
      pipeline.step.dispatcher.exit? = none := by
  have advance := pipeline.advance_step
  generalize pipeline.step = later at advance ⊢
  cases advance with
  | cancel phase requested | giveUp phase requested => cases unrequested.symm.trans requested
  | wait phase => exact absurd phase elsewhere
  | stall phase received full =>
      simp [Dispatcher.held?, phase, received, full] at free
  | stay phase =>
      rw [Dispatcher.exit?, phase] at running
      cases running
  | goOn phase | countNotice phase | countMeasurement phase | passOver phase
    | record phase | suppress phase | letThrough phase | lose phase | send phase
    | detach phase | retry phase | countSuppressed phase | countForwarded phase
    | countDropped phase =>
      rw [phase]
      exact ⟨by simp [Phase.approach], rfl⟩

theorem Course.exists_waiting (course : Course Source)
    (running : course.pipeline.dispatcher.exit? = none)
    (unrequested : course.pipeline.dispatcher.stopRequested = false) :
    ∃ steps ≤ course.pipeline.dispatcher.phase.approach,
      (course.run (List.replicate steps .step)).pipeline.dispatcher.phase = .waiting ∨
        (course.run (List.replicate steps .step)).pipeline.dispatcher.held?.isSome := by
  -- Every step comes nearer to the next wait, so the induction is on the way that is left.
  generalize bound : course.pipeline.dispatcher.phase.approach = distance
  induction distance using Nat.strongRecOn generalizing course with
  | ind distance ih =>
    by_cases there : course.pipeline.dispatcher.phase = .waiting
    · exact ⟨0, Nat.zero_le _, .inl there⟩
    · cases holds : course.pipeline.dispatcher.held? with
      | some sample => exact ⟨0, Nat.zero_le _, .inr (congrArg Option.isSome holds)⟩
      | none =>
          rcases Pipeline.approach_step running unrequested holds there with ⟨nearer, still⟩
          have unasked := (Pipeline.stopRequested_step course.pipeline).trans unrequested
          rcases ih _ (bound ▸ nearer) (course.next .step) still unasked rfl with
            ⟨steps, few, arrived⟩
          exact ⟨steps + 1, bound ▸ Nat.lt_of_le_of_lt few nearer, arrived⟩

end Closing

/-! ## The law of the loop -/

namespace Course

variable {Source : Type} [EventSource Source]

/-- Nobody but the one who asks sets the request to stop. -/
theorem requestStop_mem {course : Course Source} {occurrences : List (Occurrence Source)}
    (unrequested : course.pipeline.dispatcher.stopRequested = false)
    (requested : (course.run occurrences).pipeline.dispatcher.stopRequested = true) :
    .requestStop ∈ occurrences := by
  induction occurrences generalizing course with
  | nil => cases unrequested.symm.trans requested
  | cons occurrence later ih =>
      rw [run_cons] at requested
      cases occurrence with
      | requestStop => exact List.mem_cons_self
      | step =>
          have still := (Pipeline.stopRequested_step course.pipeline).trans unrequested
          exact List.mem_cons_of_mem _ (ih still requested)
      | feed | dropReceiver => exact List.mem_cons_of_mem _ (ih (by exact unrequested) requested)
      | receive =>
          refine List.mem_cons_of_mem _ (ih ?_ requested)
          rw [next]
          split
          · exact course.pipeline.dispatcher.stopRequested_receive.trans unrequested
          · exact unrequested

/-- What becomes of a dispatcher that is asked to stop while it is at work. -/
structure Stopping (fresh : Course Source) (earlier later : List (Occurrence Source)) : Prop where
  /-- It hears one more answer at most, that to a wait which it had begun, and ends as it was
  asked to unless this answer is an error. -/
  heard : ∃ further : List WaitResult,
    fresh.heard (earlier ++ .requestStop :: later) = fresh.heard earlier ++ further ∧
      further.length ≤ (fresh.run earlier).pipeline.dispatcher.phase.waitsAhead ∧
      ∀ exit : DispatchExit,
        (fresh.run (earlier ++ .requestStop :: later)).pipeline.dispatcher.exit? = some exit →
          exit = (further.findSome? WaitResult.exit?).getD .cancelled
  /-- It handles one more event at most. -/
  handled : ∃ further : List Event,
    fresh.handled (earlier ++ .requestStop :: later) = fresh.handled earlier ++ further ∧
      further.length ≤ (fresh.run earlier).pipeline.dispatcher.phase.eventsAhead
  /-- It is at its end after seven steps, whether or not there is room in the channel. -/
  ends : 7 ≤ later.countP Occurrence.isStep →
    (fresh.run (earlier ++ .requestStop :: later)).pipeline.dispatcher.isRunning = false

/-- What a dispatcher that was started afresh has done when so many things have happened. -/
structure Looped (source : Source) (fresh : Course Source)
    (occurrences : List (Occurrence Source)) : Prop where
  /-- What it has heard is the beginning of the script. -/
  recited : (∀ occurrence ∈ occurrences, occurrence.isFeed = false) →
    fresh.heard occurrences =
      (List.range (fresh.heard occurrences).length).map (EventSource.script source)
  /-- It has handled the events that it has heard, each once and in order, except for one that
  it is about to handle. -/
  handled :
    fresh.handled occurrences ++ (fresh.run occurrences).pipeline.dispatcher.phase.uncounted =
      (fresh.heard occurrences).filterMap WaitResult.event?
  /-- It has heard nothing after the first error, and that error or a request to stop says how
  it ended. -/
  follows : (fresh.run occurrences).pipeline.dispatcher.Follows (fresh.heard occurrences)
  asked : (fresh.run occurrences).pipeline.dispatcher.stopRequested = true →
    .requestStop ∈ occurrences
  stopping : ∀ earlier later : List (Occurrence Source),
    occurrences = earlier ++ .requestStop :: later →
      (fresh.run earlier).pipeline.dispatcher.isRunning = true → Stopping fresh earlier later
  /-- Once it is at its end, nothing changes that, and nothing more is heard or handled. -/
  settled : ∀ (earlier later : List (Occurrence Source)) (exit : DispatchExit),
    occurrences = earlier ++ later →
      (fresh.run earlier).pipeline.dispatcher.exit? = some exit →
        (fresh.run occurrences).pipeline.dispatcher.exit? = some exit ∧
          fresh.heard occurrences = fresh.heard earlier ∧
          fresh.handled occurrences = fresh.handled earlier
  /-- While nobody asks it to stop, only a full channel keeps it from its next wait. -/
  getsOn : (fresh.run occurrences).pipeline.dispatcher.isRunning = true →
    (fresh.run occurrences).pipeline.dispatcher.stopRequested = false →
      ∃ steps ≤ 5,
        ((fresh.run occurrences).run (List.replicate steps .step)).pipeline.dispatcher.phase =
            .waiting ∨
          ((fresh.run occurrences).run
            (List.replicate steps .step)).pipeline.dispatcher.held?.isSome
  /-- Who joins it now is told of the end that it comes to, -/
  joined : ∃ steps : Nat,
    (fresh.run
        (occurrences ++ .requestStop :: List.replicate steps .step)).pipeline.dispatcher.exit? =
      some (fresh.run occurrences).pipeline.join.1
  /-- and of the end that it has come to already. -/
  reported : ∀ exit : DispatchExit,
    (fresh.run occurrences).pipeline.dispatcher.exit? = some exit →
      (fresh.run occurrences).pipeline.join.1 = exit

/-- A dispatcher that is at work has not heard an error, and one that hears an error after it was
asked to stop ends by this error. -/
theorem exit_of_follows {heard further : List WaitResult} {dispatcher later : Dispatcher}
    (before : dispatcher.Follows heard) (running : dispatcher.exit? = none)
    (after : later.Follows (heard ++ further)) (few : further.length ≤ 1) {exit : DispatchExit}
    (ended : later.exit? = some exit) :
    exit = (further.findSome? WaitResult.exit?).getD .cancelled := by
  have harmless : ∀ answer ∈ heard, answer.exit? = none := by
    cases before with
    | atWork _ harmless => exact harmless
    | stopped ended | failed _ _ _ ended => cases running.symm.trans ended
  cases after with
  | atWork still => cases still.symm.trans ended
  | stopped cancelled _ calm =>
      have none : further.findSome? WaitResult.exit? = none := by
        rw [List.findSome?_eq_none_iff]
        exact fun answer member => calm answer (List.mem_append_right _ member)
      rw [none]
      exact Option.some.inj (ended.symm.trans cancelled)
  | @failed earlier last other split _ fatal reached =>
      match further, few with
      -- The error was not heard before, for the dispatcher was still at work.
      | [], _ =>
          have member : last ∈ heard := by
            rw [List.append_nil] at split
            rw [split]
            exact List.mem_append_right _ (List.mem_singleton_self last)
          cases fatal.symm.trans (harmless last member)
      | [answer], _ =>
          cases (List.append_inj' split rfl).2
          rw [List.findSome?_singleton, fatal]
          exact Option.some.inj (ended.symm.trans reached)

theorem stopping {fresh : Course Source} {earlier later : List (Occurrence Source)}
    (follows : (fresh.run earlier).pipeline.dispatcher.Follows (fresh.heard earlier))
    (running : (fresh.run earlier).pipeline.dispatcher.isRunning = true) :
    Stopping fresh earlier later := by
  have atWork : (fresh.run earlier).pipeline.dispatcher.exit? = none :=
    Option.isNone_iff_eq_none.1 running
  have asked : ((fresh.run earlier).next .requestStop).pipeline.dispatcher.stopRequested = true :=
    rfl
  have closing := closing_run asked later
  have heard : fresh.heard (earlier ++ .requestStop :: later) =
      fresh.heard earlier ++ ((fresh.run earlier).next .requestStop).heard later :=
    heard_append fresh earlier (.requestStop :: later)
  have after := follows_run (follows_next follows .requestStop) later
  have few := Nat.le_trans (Nat.le_add_right _ _) closing.heard
  constructor
  · refine ⟨_, heard, few, fun exit ended => ?_⟩
    rw [run_append] at ended
    rw [answer_of_aside rfl, List.append_nil] at after
    exact exit_of_follows follows atWork after (Nat.le_trans few (Phase.waitsAhead_le _)) ended
  · exact ⟨_, handled_append fresh earlier (.requestStop :: later),
      Nat.le_trans (Nat.le_add_right _ _) closing.handled⟩
  · intro enough
    rw [run_append]
    exact closing.ended (Nat.le_trans (Phase.distance_le _) enough)

/-- A joined dispatcher has only taken steps. -/
theorem exists_run_join (course : Course Source) : ∃ steps : Nat,
    (course.run (.requestStop :: List.replicate steps .step)).pipeline =
      course.pipeline.join.2 :=
  exists_run_runToEnd (course.next .requestStop) rfl

/-- At its end a dispatcher is joined with no further step. -/
theorem join_of_ended {course : Course Source} {exit : DispatchExit}
    (ended : course.pipeline.dispatcher.exit? = some exit) : course.pipeline.join.1 = exit := by
  rcases course.exists_run_join with ⟨steps, same⟩
  have still := (of_ended ended (.requestStop :: List.replicate steps .step)).1
  rw [same] at still
  exact Option.some.inj ((Pipeline.exit?_runToEnd _ _).symm.trans still)

/-- Whatever a source answers and whatever else happens meanwhile, a dispatcher handles the events
that it hears, each once and in order, until it hears an error or finds that it was asked to stop.
It then comes to its end in a few steps, and who joins it is told of this end. -/
theorem loop_lawful (every : UInt64) (capacity : Option Nat) (source : Source)
    (occurrences : List (Occurrence Source)) :
    Looped source (start every capacity source) occurrences := by
  generalize begun : start every capacity source = fresh
  have follows (earlier : List (Occurrence Source)) :
      (fresh.run earlier).pipeline.dispatcher.Follows (fresh.heard earlier) := by
    have idle : fresh.pipeline.dispatcher.Follows [] := by
      subst begun
      exact .atWork rfl fun _ => nofun
    exact follows_run idle earlier
  constructor
  case recited =>
    intro alone
    have first := heard_eq_script fresh alone
    subst begun
    rwa [funext (Journal.script_eq _)] at first
  case handled =>
    subst begun
    exact handled_run _ occurrences
  case follows => exact follows occurrences
  case asked =>
    subst begun
    exact requestStop_mem rfl
  case stopping =>
    intro earlier later _ running
    exact stopping (follows earlier) running
  case settled =>
    intro earlier later exit split ended
    rcases of_ended ended later with ⟨still, silent, idle⟩
    rw [split, run_append, heard_append, handled_append, silent, idle, List.append_nil,
      List.append_nil]
    exact ⟨still, rfl, rfl⟩
  case getsOn =>
    intro running unrequested
    rcases exists_waiting _ (Option.isNone_iff_eq_none.1 running) unrequested with
      ⟨steps, few, arrived⟩
    exact ⟨steps, Nat.le_trans few (Phase.approach_le _), arrived⟩
  case joined =>
    rcases (fresh.run occurrences).exists_run_join with ⟨steps, same⟩
    refine ⟨steps, ?_⟩
    rw [run_append, same]
    exact Pipeline.exit?_runToEnd _ _
  case reported => exact fun exit => join_of_ended

end Course

end SensorStream
