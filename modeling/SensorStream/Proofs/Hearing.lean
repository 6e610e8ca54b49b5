import SensorStream.Proofs.Conservation

/-!
# What a dispatcher hears and handles

A dispatcher asks its source for one answer after the other and handles the events among
them.  What it has heard says how it stands: it is at work while it has heard no error and was
not asked to stop, and at its end it hears nothing more.  While nobody else turns to the
source, it hears what the source has to answer one wait after the other.
-/

namespace SensorStream

namespace WaitResult

/-- The end to which an answer brings the dispatcher that has waited for it. -/
def exit? : WaitResult → Option DispatchExit
  | .event _ => none
  | .nothing => none
  | .failed .sourceClosed => some .sourceClosed
  | .failed error => some (.sourceFailed error.message)
  | .panicked => some (.sourceFailed "dispatcher thread panicked")

end WaitResult

namespace EventSource

variable {Source : Type} [EventSource Source]

/-- What a source answers to one wait after the other while nobody else turns to it. -/
def script (source : Source) : Nat → WaitResult
  | 0 => (wait source).1
  | number + 1 => script (wait source).2 number

end EventSource

theorem Journal.script_eq {Source : Type} [EventSource Source] (journal : Journal Source)
    (number : Nat) :
    EventSource.script journal number = EventSource.script journal.source number := by
  induction number generalizing journal with
  | zero => rfl
  | succ number ih => exact ih (EventSource.wait journal).2

namespace Occurrence

variable {Source : Type}

/-- The dispatcher takes a step of its own. -/
def isStep : Occurrence Source → Bool
  | .step => true
  | _ => false

/-- Somebody else turns to the source. -/
def isFeed : Occurrence Source → Bool
  | .feed _ => true
  | _ => false

end Occurrence

/-- The answer that the dispatcher hears in its next step. -/
def Pipeline.answer {Source : Type} [EventSource Source] (pipeline : Pipeline Source) :
    List WaitResult :=
  match pipeline.dispatcher.phase with
  | .waiting => [(EventSource.wait pipeline.source).1]
  | _ => []

/-- The event that the dispatcher handles in its next step. -/
def Dispatcher.treatment (dispatcher : Dispatcher) : List Event :=
  match dispatcher.phase with
  | .handling event => [event]
  | _ => []

namespace Course

variable {Source : Type} [EventSource Source]

/-- The answer that the dispatcher hears, if it hears one in this. -/
def answer (course : Course Source) (occurrence : Occurrence Source) : List WaitResult :=
  if occurrence.isStep then course.pipeline.answer else []

/-- The event that the dispatcher handles, if it handles one in this. -/
def treatment (course : Course Source) (occurrence : Occurrence Source) : List Event :=
  if occurrence.isStep then course.pipeline.dispatcher.treatment else []

/-- What is noted down while many things happen, one after the other. -/
def log {Entry : Type} (note : Course Source → Occurrence Source → List Entry)
    (course : Course Source) : List (Occurrence Source) → List Entry
  | [] => []
  | occurrence :: later => note course occurrence ++ log note (course.next occurrence) later

/-- All answers that the dispatcher hears. -/
def heard (course : Course Source) (occurrences : List (Occurrence Source)) : List WaitResult :=
  course.log answer occurrences

/-- All events that the dispatcher handles. -/
def handled (course : Course Source) (occurrences : List (Occurrence Source)) : List Event :=
  course.log treatment occurrences

theorem log_append {Entry : Type} (note : Course Source → Occurrence Source → List Entry)
    (course : Course Source) (earlier later : List (Occurrence Source)) :
    course.log note (earlier ++ later) =
      course.log note earlier ++ (course.run earlier).log note later := by
  induction earlier generalizing course with
  | nil => rfl
  | cons occurrence earlier ih =>
      rw [List.cons_append, log, log, ih, List.append_assoc]
      rfl

theorem heard_append (course : Course Source) (earlier later : List (Occurrence Source)) :
    course.heard (earlier ++ later) = course.heard earlier ++ (course.run earlier).heard later :=
  log_append answer course earlier later

theorem handled_append (course : Course Source) (earlier later : List (Occurrence Source)) :
    course.handled (earlier ++ later) =
      course.handled earlier ++ (course.run earlier).handled later :=
  log_append treatment course earlier later

@[simp] theorem heard_nil (course : Course Source) : course.heard [] = [] := rfl

@[simp] theorem handled_nil (course : Course Source) : course.handled [] = [] := rfl

theorem heard_cons (course : Course Source) (occurrence : Occurrence Source)
    (later : List (Occurrence Source)) :
    course.heard (occurrence :: later) =
      course.answer occurrence ++ (course.next occurrence).heard later := rfl

theorem handled_cons (course : Course Source) (occurrence : Occurrence Source)
    (later : List (Occurrence Source)) :
    course.handled (occurrence :: later) =
      course.treatment occurrence ++ (course.next occurrence).handled later := rfl

theorem run_cons (course : Course Source) (occurrence : Occurrence Source)
    (later : List (Occurrence Source)) :
    course.run (occurrence :: later) = (course.next occurrence).run later := rfl

end Course

/-! ## What happens beside the dispatcher's own steps -/

/-- The phase is the same, unless a sample that was being sent is taken from the dispatcher's
hands, and a request to stop stays. -/
structure Dispatcher.Aside (dispatcher later : Dispatcher) : Prop where
  phase : later.phase = dispatcher.phase ∨
    (∃ sample : StreamedSample, dispatcher.phase = .delivering sample) ∧ later.phase = .forwarding
  requested : dispatcher.stopRequested = true → later.stopRequested = true

namespace Dispatcher

/-- To take a sample is no request to stop. -/
theorem stopRequested_receive (dispatcher : Dispatcher) :
    dispatcher.receive.2.stopRequested = dispatcher.stopRequested := by
  have receipt := dispatcher.receipt_receive
  generalize dispatcher.receive.1.sample? = arrived at receipt
  generalize dispatcher.receive.2 = later at receipt ⊢
  generalize dispatcher.handover = direct at receipt
  cases receipt <;> rfl

theorem aside_receive (dispatcher : Dispatcher) : dispatcher.Aside dispatcher.receive.2 := by
  refine ⟨?_, dispatcher.stopRequested_receive.trans⟩
  have receipt := dispatcher.receipt_receive
  generalize dispatcher.receive.1.sample? = arrived at receipt
  generalize dispatcher.receive.2 = later at receipt ⊢
  generalize dispatcher.handover = direct at receipt
  cases receipt with
  | pending | nothing => exact .inl rfl
  | direct phase => exact .inr ⟨⟨_, phase⟩, rfl⟩

end Dispatcher

namespace Course

variable {Source : Type} [EventSource Source] {course : Course Source}
variable {occurrence : Occurrence Source}

theorem aside_next (beside : occurrence.isStep = false) :
    course.pipeline.dispatcher.Aside (course.next occurrence).pipeline.dispatcher := by
  cases occurrence with
  | step => cases beside
  | feed | dropReceiver => exact ⟨.inl rfl, id⟩
  | requestStop => exact ⟨.inl rfl, fun _ => rfl⟩
  | receive =>
      rw [next]
      split
      · exact course.pipeline.dispatcher.aside_receive
      · exact ⟨.inl rfl, id⟩

theorem answer_of_aside (beside : occurrence.isStep = false) : course.answer occurrence = [] := by
  rw [answer, beside]
  rfl

omit [EventSource Source] in
theorem treatment_of_aside (beside : occurrence.isStep = false) :
    course.treatment occurrence = [] := by
  rw [treatment, beside]
  rfl

theorem source_of_aside (beside : occurrence.isStep = false) (alone : occurrence.isFeed = false) :
    (course.next occurrence).pipeline.source = course.pipeline.source := by
  cases occurrence with
  | step => cases beside
  | feed => cases alone
  | receive =>
      rw [next]
      split <;> rfl
  | dropReceiver | requestStop => rfl

end Course

/-! ## How a dispatcher's end follows from what it has heard -/

namespace Dispatcher

@[simp] theorem exit?_resume (dispatcher : Dispatcher) (result : WaitResult) :
    (dispatcher.resume result).exit? = result.exit? := by
  cases result with
  | failed error => cases error <;> rfl
  | _ => rfl

theorem Aside.exit?_eq {dispatcher later : Dispatcher} (aside : dispatcher.Aside later) :
    later.exit? = dispatcher.exit? := by
  rcases aside.phase with same | ⟨⟨sample, sending⟩, forwarding⟩
  · rw [exit?, exit?, same]
  · rw [exit?, exit?, sending, forwarding]

theorem Aside.uncounted_eq {dispatcher later : Dispatcher} (aside : dispatcher.Aside later) :
    later.phase.uncounted = dispatcher.phase.uncounted := by
  rcases aside.phase with same | ⟨⟨sample, sending⟩, forwarding⟩
  · rw [same]
  · rw [sending, forwarding]
    rfl

/-- How a dispatcher stands that has heard these answers. -/
inductive Follows (dispatcher : Dispatcher) (heard : List WaitResult) : Prop where
  | atWork (running : dispatcher.exit? = none) (harmless : ∀ answer ∈ heard, answer.exit? = none)
  /-- It was asked to stop before it has heard an error. -/
  | stopped (ended : dispatcher.exit? = some .cancelled)
      (requested : dispatcher.stopRequested = true)
      (harmless : ∀ answer ∈ heard, answer.exit? = none)
  /-- The first error was the last answer, and says how the dispatcher ended. -/
  | failed {earlier : List WaitResult} {last : WaitResult} {exit : DispatchExit}
      (split : heard = earlier ++ [last]) (harmless : ∀ answer ∈ earlier, answer.exit? = none)
      (fatal : last.exit? = some exit) (ended : dispatcher.exit? = some exit)

namespace Follows

variable {dispatcher later : Dispatcher} {heard : List WaitResult}

/-- Nothing but its own steps brings a dispatcher to its end. -/
theorem aside (follows : dispatcher.Follows heard) (aside : dispatcher.Aside later) :
    later.Follows heard := by
  have same := aside.exit?_eq
  cases follows with
  | atWork running harmless => exact .atWork (same.trans running) harmless
  | stopped ended requested harmless =>
      exact .stopped (same.trans ended) (aside.requested requested) harmless
  | failed split harmless fatal ended => exact .failed split harmless fatal (same.trans ended)

end Follows

end Dispatcher

namespace Pipeline

variable {Source : Type} [EventSource Source] {pipeline : Pipeline Source}

/-- A step of a dispatcher that is at work. -/
theorem follows_step {heard : List WaitResult} (running : pipeline.dispatcher.exit? = none)
    (harmless : ∀ answer ∈ heard, answer.exit? = none) :
    pipeline.step.dispatcher.Follows (heard ++ pipeline.answer) := by
  have advance := pipeline.advance_step
  generalize pipeline.step = later at advance ⊢
  rw [Pipeline.answer]
  cases advance with
  | wait phase =>
      simp only [phase]
      cases fatal : (EventSource.wait pipeline.source).1.exit? with
      | none =>
          refine .atWork ?_ ?_
          · rw [Dispatcher.exit?_resume, fatal]
          · intro answer member
            rcases List.mem_append.1 member with before | here
            · exact harmless answer before
            · rw [List.mem_singleton.1 here, fatal]
      | some exit =>
          exact .failed rfl harmless fatal ((Dispatcher.exit?_resume _ _).trans fatal)
  | cancel phase requested =>
      simp only [phase, List.append_nil]
      exact .stopped rfl requested harmless
  | stay phase =>
      rw [Dispatcher.exit?, phase] at running
      cases running
  | goOn phase | countNotice phase | countMeasurement phase | passOver phase | record phase
    | suppress phase | letThrough phase | lose phase | send phase | stall phase | detach phase
    | giveUp phase | retry phase | countSuppressed phase | countForwarded phase
    | countDropped phase =>
      simp only [phase, List.append_nil]
      exact .atWork rfl harmless

/-- What was heard and not handled yet is handled before the next answer is heard. -/
theorem treatment_step (pipeline : Pipeline Source) :
    pipeline.dispatcher.treatment ++ pipeline.step.dispatcher.phase.uncounted =
      pipeline.dispatcher.phase.uncounted ++ pipeline.answer.filterMap WaitResult.event? := by
  have advance := pipeline.advance_step
  generalize pipeline.step = later at advance ⊢
  rw [Pipeline.answer, Dispatcher.treatment]
  cases advance with
  | wait phase =>
      simp only [phase, Dispatcher.uncounted_resume]
      cases carried : (EventSource.wait pipeline.source).1.event? <;>
        simp [carried, Phase.uncounted]
  | cancel phase | goOn phase | countNotice phase | countMeasurement phase | passOver phase
    | record phase | suppress phase | letThrough phase | lose phase | send phase | stall phase
    | detach phase | giveUp phase | retry phase | countSuppressed phase | countForwarded phase
    | countDropped phase | stay phase =>
      simp [phase, Phase.uncounted, Dispatcher.finish]

/-- A step turns to the source only to hear an answer. -/
theorem source_step (pipeline : Pipeline Source) :
    pipeline.answer = [] ∧ pipeline.step.source = pipeline.source ∨
      pipeline.answer = [(EventSource.wait pipeline.source).1] ∧
        pipeline.step.source = (EventSource.wait pipeline.source).2 := by
  have advance := pipeline.advance_step
  generalize pipeline.step = later at advance ⊢
  rw [Pipeline.answer]
  cases advance with
  | wait phase => exact .inr (by simp [phase])
  | cancel phase | goOn phase | countNotice phase | countMeasurement phase | passOver phase
    | record phase | suppress phase | letThrough phase | lose phase | send phase | stall phase
    | detach phase | giveUp phase | retry phase | countSuppressed phase | countForwarded phase
    | countDropped phase | stay phase =>
      exact .inl (by simp [phase])

/-- At its end a dispatcher neither hears nor handles anything. -/
theorem of_ended {exit : DispatchExit} (ended : pipeline.dispatcher.exit? = some exit) :
    pipeline.answer = [] ∧ pipeline.dispatcher.treatment = [] ∧ pipeline.step = pipeline := by
  have phase : pipeline.dispatcher.phase = .ended exit := by
    rw [Dispatcher.exit?] at ended
    split at ended
    · rename_i other phase
      cases ended
      exact phase
    · cases ended
  simp [Pipeline.answer, Dispatcher.treatment, Pipeline.step, Dispatcher.step, phase]

end Pipeline

namespace Course

variable {Source : Type} [EventSource Source] {course : Course Source}

theorem next_of_isStep (course : Course Source) {occurrence : Occurrence Source}
    (steps : occurrence.isStep = true) :
    (course.next occurrence).pipeline = course.pipeline.step ∧
      course.answer occurrence = course.pipeline.answer ∧
      course.treatment occurrence = course.pipeline.dispatcher.treatment := by
  cases occurrence with
  | step => exact ⟨rfl, rfl, rfl⟩
  | _ => cases steps

theorem follows_next {heard : List WaitResult}
    (follows : course.pipeline.dispatcher.Follows heard) (occurrence : Occurrence Source) :
    (course.next occurrence).pipeline.dispatcher.Follows (heard ++ course.answer occurrence) := by
  cases steps : occurrence.isStep with
  | false =>
      rw [answer_of_aside steps, List.append_nil]
      exact follows.aside (aside_next steps)
  | true =>
      rcases course.next_of_isStep steps with ⟨next, answer, _⟩
      rw [next, answer]
      cases follows with
      | atWork running harmless => exact Pipeline.follows_step running harmless
      | stopped ended requested harmless =>
          rcases Pipeline.of_ended ended with ⟨silent, _, same⟩
          rw [silent, same, List.append_nil]
          exact .stopped ended requested harmless
      | failed split harmless fatal ended =>
          rcases Pipeline.of_ended ended with ⟨silent, _, same⟩
          rw [silent, same, List.append_nil]
          exact .failed split harmless fatal ended

theorem follows_run {heard : List WaitResult} (follows : course.pipeline.dispatcher.Follows heard)
    (occurrences : List (Occurrence Source)) :
    (course.run occurrences).pipeline.dispatcher.Follows (heard ++ course.heard occurrences) := by
  induction occurrences generalizing course heard with
  | nil =>
      rw [run_nil, heard_nil, List.append_nil]
      exact follows
  | cons occurrence later ih =>
      rw [run_cons, heard_cons, ← List.append_assoc]
      exact ih (follows_next follows occurrence)

/-- Each event that is heard is handled, once and in its turn. -/
theorem treatment_next (course : Course Source) (occurrence : Occurrence Source) :
    course.treatment occurrence ++ (course.next occurrence).pipeline.dispatcher.phase.uncounted =
      course.pipeline.dispatcher.phase.uncounted ++
        (course.answer occurrence).filterMap WaitResult.event? := by
  cases steps : occurrence.isStep with
  | false =>
      rw [answer_of_aside steps, treatment_of_aside steps, List.filterMap_nil, List.append_nil,
        List.nil_append]
      exact (aside_next steps).uncounted_eq
  | true =>
      rcases course.next_of_isStep steps with ⟨next, answer, treatment⟩
      rw [next, answer, treatment]
      exact course.pipeline.treatment_step

theorem handled_run (course : Course Source) (occurrences : List (Occurrence Source)) :
    course.handled occurrences ++ (course.run occurrences).pipeline.dispatcher.phase.uncounted =
      course.pipeline.dispatcher.phase.uncounted ++
        (course.heard occurrences).filterMap WaitResult.event? := by
  induction occurrences generalizing course with
  | nil => simp [handled_nil, heard_nil]
  | cons occurrence later ih =>
      rw [handled_cons, heard_cons, run_cons, List.append_assoc, ih, ← List.append_assoc,
        treatment_next, List.append_assoc, List.filterMap_append]

/-- While nobody else turns to the source, what is heard are the first answers of its
script. -/
theorem heard_eq_script (course : Course Source) {occurrences : List (Occurrence Source)}
    (alone : ∀ occurrence ∈ occurrences, occurrence.isFeed = false) :
    course.heard occurrences =
      (List.range (course.heard occurrences).length).map
        (EventSource.script course.pipeline.source) := by
  induction occurrences generalizing course with
  | nil => rfl
  | cons occurrence later ih =>
      have rest := ih (course.next occurrence) fun other member => alone other (by simp [member])
      rw [heard_cons]
      cases steps : occurrence.isStep with
      | false =>
          rw [answer_of_aside steps, List.nil_append]
          rwa [source_of_aside steps (alone occurrence (by simp))] at rest
      | true =>
          rcases course.next_of_isStep steps with ⟨next, answer, _⟩
          rw [answer]
          rw [next] at rest
          rcases course.pipeline.source_step with ⟨silent, same⟩ | ⟨heard, source⟩
          · rw [silent, List.nil_append]
            rwa [same] at rest
          · rw [heard, List.singleton_append, List.length_cons, List.range_succ_eq_map,
              List.map_cons, List.map_map]
            rw [source] at rest
            exact congrArg (_ :: ·) rest

/-! ## The end -/

/-- A dispatcher at its end stays there, whatever happens. -/
theorem of_ended {exit : DispatchExit} (ended : course.pipeline.dispatcher.exit? = some exit)
    (occurrences : List (Occurrence Source)) :
    (course.run occurrences).pipeline.dispatcher.exit? = some exit ∧
      course.heard occurrences = [] ∧ course.handled occurrences = [] := by
  induction occurrences generalizing course with
  | nil => exact ⟨ended, rfl, rfl⟩
  | cons occurrence later ih =>
      rw [run_cons, heard_cons, handled_cons]
      cases steps : occurrence.isStep with
      | false =>
          rw [answer_of_aside steps, treatment_of_aside steps]
          exact ih ((aside_next steps).exit?_eq.trans ended)
      | true =>
          rcases course.next_of_isStep steps with ⟨next, answer, treatment⟩
          rcases Pipeline.of_ended ended with ⟨silent, idle, same⟩
          rw [answer, treatment, silent, idle]
          refine ih ?_
          rw [next, same]
          exact ended

end Course

end SensorStream
