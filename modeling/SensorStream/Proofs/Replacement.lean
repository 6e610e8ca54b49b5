import Mathlib.Data.List.Basic
import SensorStream.Proofs.DiscoveryRace

/-!
# Who took which event

While a dispatcher takes the place of another one, both take events from one source and
report to one tracker.  The starts of a client are numbered, and a log says of every event
by the dispatcher of which start it was taken.  From its own entries in the log a dispatcher
serves the caller as if it were alone.  The tracker hears from both, from each of them in
the order in which it took the events, but the one may be faster than the other.
-/

namespace SensorStream

/-! ## Logs with numbers -/

section Log

variable {Entry : Type}

/-- Entries of a log, all of this number. -/
def entered (number : Nat) (entries : List Entry) : List (Nat × Entry) :=
  entries.map fun entry => (number, entry)

/-- What a log has under this number. -/
def entriesOf (number : Nat) (log : List (Nat × Entry)) : List Entry :=
  (log.filter fun entry => entry.1 = number).map Prod.snd

/-- What a log has under other numbers. -/
def entriesBut (number : Nat) (log : List (Nat × Entry)) : List Entry :=
  (log.filter fun entry => entry.1 ≠ number).map Prod.snd

@[simp] theorem entered_nil (number : Nat) : entered number ([] : List Entry) = [] := rfl

@[simp] theorem snd_entered (number : Nat) (entries : List Entry) :
    (entered number entries).map Prod.snd = entries := by
  simp [entered, Function.comp_def]

theorem entered_append (number : Nat) (earlier later : List Entry) :
    entered number (earlier ++ later) = entered number earlier ++ entered number later :=
  List.map_append

@[simp] theorem entriesOf_append (number : Nat) (earlier later : List (Nat × Entry)) :
    entriesOf number (earlier ++ later) = entriesOf number earlier ++ entriesOf number later := by
  simp [entriesOf]

@[simp] theorem entriesOf_entered_self (number : Nat) (entries : List Entry) :
    entriesOf number (entered number entries) = entries := by
  simp [entriesOf, entered, List.filter_map, Function.comp_def]

theorem entriesOf_entered_of_ne {number other : Nat} (distinct : other ≠ number)
    (entries : List Entry) : entriesOf other (entered number entries) = [] := by
  simp [entriesOf, entered, distinct.symm]

@[simp] theorem mem_entriesOf {number : Nat} {entry : Entry} {log : List (Nat × Entry)} :
    entry ∈ entriesOf number log ↔ (number, entry) ∈ log := by
  simp [entriesOf]

@[simp] theorem mem_entriesBut {number : Nat} {entry : Entry} {log : List (Nat × Entry)} :
    entry ∈ entriesBut number log ↔ ∃ other ≠ number, (other, entry) ∈ log := by
  simp [entriesBut, and_comm]

/-- An entry of a log has the number or another one. -/
theorem length_filterMap_entries {Part : Type} (read : Entry → Option Part) (number : Nat)
    (log : List (Nat × Entry)) :
    ((log.map Prod.snd).filterMap read).length =
      ((entriesOf number log).filterMap read).length +
        ((entriesBut number log).filterMap read).length := by
  have both := List.filter_append_perm (fun entry : Nat × Entry => decide (entry.1 = number)) log
  have lengths := ((both.map Prod.snd).filterMap read).length_eq
  rw [List.map_append, List.filterMap_append, List.length_append] at lengths
  rw [← lengths]
  simp [entriesOf, entriesBut]

/-- Only the entries of one number say anything. -/
theorem filterMap_entriesOf {Part : Type} (read : Entry → Option Part) {number : Nat}
    {log : List (Nat × Entry)} (silent : (entriesBut number log).filterMap read = []) :
    (log.map Prod.snd).filterMap read = (entriesOf number log).filterMap read := by
  rw [entriesOf, List.filterMap_map, List.filterMap_map, List.filterMap_filter]
  refine List.filterMap_congr fun entry member => ?_
  by_cases same : entry.1 = number
  · simp [same]
  · have among := mem_entriesBut.2 ⟨entry.1, same, member⟩
    simp [same, List.filterMap_eq_nil_iff.1 silent entry.2 among]

theorem forall_mem_append_entered {log : List (Nat × Entry)} {number bound : Nat}
    (numbered : ∀ entry ∈ log, entry.1 ≤ bound) (within : number ≤ bound)
    (entries : List Entry) : ∀ entry ∈ log ++ entered number entries, entry.1 ≤ bound := by
  intro entry member
  rcases List.mem_append.1 member with old | new
  · exact numbered entry old
  · rcases List.mem_map.1 new with ⟨_, _, rfl⟩
    exact within

end Log

/-! ## What a step takes, and what it reports -/

section Contribution

variable {Source : Type}

namespace Journal

/-- The events that were taken since the journal was like this. -/
def since (earlier later : Journal Source) : List Event :=
  later.taken.drop earlier.taken.length

theorem since_eq {earlier later : Journal Source} {arrived : List Event}
    (grown : later.taken = earlier.taken ++ arrived) : earlier.since later = arrived := by
  rw [since, grown, List.drop_left]

@[simp] theorem since_self (journal : Journal Source) : journal.since journal = [] :=
  List.drop_length

end Journal

namespace Pipeline

/-- The pipeline with other events in its journal and another tracker. -/
def apart (pipeline : Pipeline (Journal Source)) (taken : List Event) (tracker : Tracker) :
    Pipeline (Journal Source) :=
  { pipeline with source := ⟨pipeline.source.source, taken⟩, tracker := tracker }

variable [EventSource Source]

/-- The event that the next step takes. -/
def arriving (pipeline : Pipeline Source) : List Event :=
  match pipeline.dispatcher.phase with
  | .waiting => (EventSource.wait pipeline.source).1.event?.toList
  | _ => []

/-- The discovery event that the next step hands to the tracker. -/
def reporting (pipeline : Pipeline Source) : List Notice :=
  match pipeline.dispatcher.phase with
  | .recording notice => [notice]
  | _ => []

/-- These events were taken on the way from one pipeline to the other, and these discovery
events were handed to the tracker.  Each is handed on after it was taken, in this order. -/
structure Contribution (first last : Pipeline (Journal Source)) (arrived : List Event)
    (reported : List Notice) : Prop where
  taken : last.source.taken = first.source.taken ++ arrived
  tracker : last.tracker = reported.foldl Tracker.record first.tracker
  unrecorded : first.dispatcher.phase.unrecorded ++ noticesIn arrived =
    reported ++ last.dispatcher.phase.unrecorded

variable (pipeline : Pipeline (Journal Source))

theorem contribution_step :
    pipeline.Contribution pipeline.step pipeline.arriving pipeline.reporting := by
  have advance := pipeline.advance_step
  generalize pipeline.step = later at advance ⊢
  rw [arriving, reporting]
  cases advance with
  | wait phase =>
      rw [phase]
      refine ⟨rfl, rfl, ?_⟩
      rw [Dispatcher.unrecorded_resume, phase]
      rfl
  | record phase =>
      rw [phase]
      exact ⟨(List.append_nil _).symm, rfl, by rw [phase]; rfl⟩
  | countNotice phase carried =>
      rw [phase]
      refine ⟨(List.append_nil _).symm, rfl, ?_⟩
      simp [phase, Phase.unrecorded, carried]
  | countMeasurement phase carried | passOver phase carried =>
      rw [phase]
      refine ⟨(List.append_nil _).symm, rfl, ?_⟩
      simp [phase, Phase.unrecorded, carried]
  | stay phase =>
      rw [phase]
      exact ⟨(List.append_nil _).symm, rfl, List.append_nil _⟩
  | cancel phase | goOn phase | suppress phase | letThrough phase | lose phase | send phase
    | stall phase | detach phase | giveUp phase | retry phase | countSuppressed phase
    | countForwarded phase | countDropped phase =>
      rw [phase]
      exact ⟨(List.append_nil _).symm, rfl, by rw [phase]; rfl⟩

/-- No step depends on the events that were taken before, or on what the tracker knows. -/
theorem step_apart (taken : List Event) (tracker : Tracker) :
    (pipeline.apart taken tracker).step =
      pipeline.step.apart (taken ++ pipeline.arriving)
        (pipeline.reporting.foldl Tracker.record tracker) := by
  rcases pipeline with ⟨source, known, dispatcher⟩
  cases phase : dispatcher.phase with
  | waiting =>
      simp only [step, apart, arriving, reporting, phase]
      rfl
  | _ => simp [step, apart, arriving, reporting, phase]

end Pipeline

end Contribution

/-! ## What the tracker has heard -/

/-- The log has all events that were taken.  The tracker has heard from each dispatcher of the
discovery events that it took, in their order, but for those that it still owes. -/
structure Books (log : List (Nat × Event)) (taken : List Event) (tracker : Tracker)
    (owed : Nat → List Notice) : Prop where
  taken : log.map Prod.snd = taken
  heard : ∃ heard : List (Nat × Notice),
    tracker = (heard.map Prod.snd).foldl Tracker.record .fresh ∧
      ∀ number, noticesIn (entriesOf number log) = entriesOf number heard ++ owed number

namespace Books

variable {log : List (Nat × Event)} {taken : List Event} {tracker : Tracker}
  {owed : Nat → List Notice}

theorem congr (books : Books log taken tracker owed) {same : Nat → List Notice}
    (equal : ∀ number, same number = owed number) : Books log taken tracker same := by
  rw [funext equal]
  exact books

/-- One dispatcher takes events and reports some of what it owes. -/
theorem extend {Source : Type} {first last : Pipeline (Journal Source)} {arrived : List Event}
    {reported : List Notice} (contribution : first.Contribution last arrived reported)
    (books : Books log first.source.taken first.tracker owed) {number : Nat}
    {still : Nat → List Notice} (before : owed number = first.dispatcher.phase.unrecorded)
    (afterwards : still number = last.dispatcher.phase.unrecorded)
    (others : ∀ other ≠ number, still other = owed other) :
    Books (log ++ entered number arrived) last.source.taken last.tracker still := by
  rcases books with ⟨all, heard, tracked, split⟩
  rcases contribution with ⟨taken, told, unrecorded⟩
  refine ⟨?_, heard ++ entered number reported, ?_, ?_⟩
  · rw [List.map_append, all, snd_entered, taken]
  · rw [List.map_append, snd_entered, List.foldl_append, ← tracked, told]
  · intro other
    rw [entriesOf_append, entriesOf_append, noticesIn_append, split]
    by_cases same : other = number
    · rw [same, entriesOf_entered_self, entriesOf_entered_self, List.append_assoc, before,
        unrecorded, afterwards, List.append_assoc]
    · rw [entriesOf_entered_of_ne same, entriesOf_entered_of_ne same, others other same,
        noticesIn_nil, List.append_nil, List.append_nil]

/-- What the tracker has heard from a dispatcher that owes nothing is what that one took. -/
theorem mem_heard_iff {heard : List (Nat × Notice)}
    (split : ∀ number, noticesIn (entriesOf number log) = entriesOf number heard ++ [])
    {number : Nat} {notice : Notice} :
    (number, notice) ∈ heard ↔ ∃ event : Event, (number, event) ∈ log ∧
      event.notice? = some notice := by
  have told := split number
  rw [List.append_nil] at told
  rw [← mem_entriesOf, ← told]
  simp [noticesIn]

/-- If only one dispatcher took discovery events, the tracker has heard of them in order. -/
theorem tracker_of_sole (books : Books log taken tracker fun _ => []) {number : Nat}
    (sole : noticesIn (entriesBut number log) = []) :
    tracker = (noticesIn taken).foldl Tracker.record .fresh := by
  rcases books with ⟨rfl, heard, rfl, split⟩
  -- Another dispatcher has nothing to report that it has not taken.
  have others : entriesBut number heard = [] := by
    refine List.eq_nil_iff_forall_not_mem.2 fun notice member => ?_
    rcases mem_entriesBut.1 member with ⟨other, distinct, reported⟩
    rcases (mem_heard_iff split).1 reported with ⟨event, took, carried⟩
    have silent := List.filterMap_eq_nil_iff.1 sole event
      (mem_entriesBut.2 ⟨other, distinct, took⟩)
    cases silent.symm.trans carried
  have own := filterMap_entriesOf some (congrArg (List.filterMap some) others)
  rw [List.filterMap_some, List.filterMap_some, ← List.append_nil (entriesOf number heard),
    ← split] at own
  rw [own]
  exact congrArg _ (filterMap_entriesOf _ sole).symm

/-- Discovery is complete when any dispatcher took an event that completes it. -/
theorem complete_iff (books : Books log taken tracker fun _ => []) :
    tracker.complete = true ↔ ∃ notice ∈ noticesIn taken, notice.Completes := by
  rcases books with ⟨rfl, heard, rfl, split⟩
  have told (notice : Notice) :
      notice ∈ heard.map Prod.snd ↔ notice ∈ noticesIn (log.map Prod.snd) := by
    simp only [noticesIn, List.mem_map, List.mem_filterMap, Prod.exists, exists_eq_right,
      mem_heard_iff split]
    grind
  rw [Tracker.complete_foldl_record]
  simp [Tracker.fresh, told]

end Books

/-- What the dispatcher of the start with this number still owes to the tracker. -/
def owedBy (number : Nat) (dispatcher : Dispatcher) (other : Nat) : List Notice :=
  if other = number then dispatcher.phase.unrecorded else []

@[simp] theorem owedBy_self (number : Nat) (dispatcher : Dispatcher) :
    owedBy number dispatcher number = dispatcher.phase.unrecorded :=
  if_pos rfl

theorem owedBy_of_ne {number other : Nat} (distinct : other ≠ number) (dispatcher : Dispatcher) :
    owedBy number dispatcher other = [] :=
  if_neg distinct

/-! ## One dispatcher's part -/

section Serves

variable {Source : Type}

/-- From what the log has under this number, the dispatcher serves the caller as if it were
alone. -/
def Serves (every : UInt64) (number : Nat) (log : List (Nat × Event))
    (handed : List StreamedSample) (pipeline : Pipeline (Journal Source)) : Prop :=
  ∃ own : Tracker, Serving .fresh every handed (pipeline.apart (entriesOf number log) own)

namespace Serves

variable {every : UInt64} {number : Nat} {log : List (Nat × Event)}
  {handed : List StreamedSample} {pipeline : Pipeline (Journal Source)}

/-- Before it has taken an event. -/
theorem spawn (capacity : Option Nat) (unheard : entriesOf number log = [])
    (source : Journal Source) (tracker : Tracker) :
    Serves every number log []
      ⟨source, tracker, .spawn every (.withCapacity capacity)⟩ := by
  refine ⟨.fresh, ?_⟩
  rw [unheard]
  exact serving_spawn .fresh every capacity source.source

/-- What others take does not concern it. -/
theorem others (serves : Serves every number log handed pipeline) {later : List (Nat × Event)}
    (unheard : entriesOf number later = []) :
    Serves every number (log ++ later) handed pipeline := by
  rw [Serves, entriesOf_append, unheard, List.append_nil]
  exact serves

variable [EventSource Source]

/-- What others do to the source and the tracker does not concern it. -/
theorem beside (serves : Serves every number log handed pipeline) (source : Journal Source)
    (tracker : Tracker) : Serves every number log handed ⟨source, tracker, pipeline.dispatcher⟩ := by
  rcases serves with ⟨own, serving⟩
  have same : (⟨source.source, entriesOf number log⟩ : Journal Source).taken =
      (pipeline.apart (entriesOf number log) own).source.taken := rfl
  exact ⟨own, (serving_lasting .fresh every handed).source same serving⟩

theorem step (serves : Serves every number log handed pipeline) :
    Serves every number (log ++ entered number pipeline.arriving) handed pipeline.step := by
  rcases serves with ⟨own, serving⟩
  have stepped := (serving_lasting .fresh every handed).step serving
  rw [Pipeline.step_apart] at stepped
  rw [Serves, entriesOf_append, entriesOf_entered_self]
  exact ⟨_, stepped⟩

theorem receive (serves : Serves every number log handed pipeline) :
    Serves every number log (handed ++ pipeline.dispatcher.sink.receive.1.samples)
      (pipeline.updateDispatcher fun dispatcher =>
        { dispatcher with sink := pipeline.dispatcher.sink.receive.2 }) := by
  rcases serves with ⟨own, serving⟩
  exact ⟨own, (serving_upheld .fresh every).receive serving⟩

end Serves

end Serves

/-! ## Two dispatchers side by side -/

namespace Succession

variable {Source : Type} [EventSource Source]

/-- Who takes which event in this turn; the earlier dispatcher is that of the start with this
number, the later one that of the next start. -/
def caught (number : Nat) (succession : Succession (Journal Source)) (turn : Turn) :
    List (Nat × Event) :=
  let events := succession.source.since (succession.turn turn).source
  match turn with
  | .earlier => entered number events
  | .later => entered (number + 1) events
  | .pass _ => []

/-- Who takes which event in these turns. -/
def log (number : Nat) (succession : Succession (Journal Source)) :
    List Turn → List (Nat × Event)
  | [] => []
  | turn :: turns => succession.caught number turn ++ (succession.turn turn).log number turns

/-- The earlier dispatcher alone takes all events. -/
theorem exists_log_replicate (number : Nat) (succession : Succession (Journal Source))
    (steps : Nat) : ∃ events : List Event,
      succession.log number (List.replicate steps .earlier) = entered number events := by
  induction steps generalizing succession with
  | zero => exact ⟨[], rfl⟩
  | succ steps ih =>
      rcases ih (succession.turn .earlier) with ⟨events, later⟩
      refine ⟨succession.source.since (succession.turn .earlier).source ++ events, ?_⟩
      rw [entered_append]
      exact congrArg _ later

end Succession

/-- Who takes which event while the later dispatcher takes the place of the earlier one. -/
def Schedule.exchange {Source : Type} [EventSource Source]
    (schedule : Schedule (Journal Source)) (tick number : Nat)
    (succession : Succession (Journal Source)) : List (Nat × Event) :=
  let beside := schedule.beside tick succession
  let parting := schedule.parting tick succession
  succession.log number (schedule.overlap tick succession) ++
    beside.log number (schedule.overlap (tick + 1) beside) ++
      entered number (parting.source.since parting.conclude.source)

section Succeeding

variable {Source : Type}

/-- The dispatcher of the start with this number and that of the next one are at work, and what
they took is in the log. -/
structure Succeeding (every : UInt64) (number : Nat) (log : List (Nat × Event))
    (succession : Succession (Journal Source)) : Prop where
  books : Books log succession.source.taken succession.tracker fun other =>
    owedBy number succession.earlier other ++ owedBy (number + 1) succession.later other
  numbered : ∀ entry ∈ log, entry.1 ≤ number + 1
  serves : Serves every (number + 1) log [] succession.laterSide

namespace Succeeding

variable {every : UInt64} {number : Nat} {log : List (Nat × Event)}
  {succession : Succession (Journal Source)}

theorem requestStop (succeeding : Succeeding every number log succession) :
    Succeeding every number log succession.requestStop :=
  ⟨succeeding.books, succeeding.numbered, succeeding.serves⟩

/-- A dispatcher at its end owes nothing. -/
theorem settled (succeeding : Succeeding every number log succession)
    (halted : succession.earlier.isRunning = false) :
    Books log succession.source.taken succession.tracker
      (owedBy (number + 1) succession.later) := by
  rcases Dispatcher.phase_of_not_running halted with ⟨exit, phase⟩
  apply succeeding.books.congr
  intro other
  simp [owedBy, phase, Phase.unrecorded]

variable [EventSource Source]

theorem turn (succeeding : Succeeding every number log succession) (turn : Turn) :
    Succeeding every number (log ++ succession.caught number turn) (succession.turn turn) := by
  rcases succeeding with ⟨books, numbered, serves⟩
  have distinct : number + 1 ≠ number := Nat.succ_ne_self number
  -- Whoever acts, the debt of the other one stays, and of the log only one number grows.
  cases turn with
  | earlier =>
      have contribution := succession.earlierSide.contribution_step
      have arrived : succession.caught number .earlier =
          entered number succession.earlierSide.arriving :=
        congrArg (entered number) (Journal.since_eq contribution.taken)
      rw [arrived]
      refine ⟨?_, ?_, ?_⟩
      · apply Books.extend contribution books
        · simp only [owedBy_self, owedBy_of_ne distinct.symm, List.append_nil]
          rfl
        · simp only [owedBy_self, owedBy_of_ne distinct.symm, List.append_nil]
          rfl
        · intro other apart
          simp only [owedBy_of_ne apart]
          rfl
      · exact forall_mem_append_entered numbered (Nat.le_succ number) _
      · exact (serves.others (entriesOf_entered_of_ne distinct _)).beside _ _
  | later =>
      have contribution := succession.laterSide.contribution_step
      have arrived : succession.caught number .later =
          entered (number + 1) succession.laterSide.arriving :=
        congrArg (entered (number + 1)) (Journal.since_eq contribution.taken)
      rw [arrived]
      refine ⟨?_, ?_, ?_⟩
      · apply Books.extend contribution books
        · simp only [owedBy_self, owedBy_of_ne distinct, List.nil_append]
          rfl
        · simp only [owedBy_self, owedBy_of_ne distinct, List.nil_append]
          rfl
        · intro other apart
          simp only [owedBy_of_ne apart]
          rfl
      · exact forall_mem_append_entered numbered (Nat.le_refl _) _
      · exact serves.step
  | pass budget =>
      rw [Succession.caught, List.append_nil, Succession.turn]
      split
      case h_1 => exact ⟨books, numbered, serves⟩
      case h_2 elapsed passes =>
        have same := Journal.taken_advance passes
        refine ⟨?_, numbered, ?_⟩
        · rw [← same] at books
          exact books
        · exact serves.beside elapsed.world succession.tracker

theorem play (succeeding : Succeeding every number log succession) (turns : List Turn) :
    Succeeding every number (log ++ succession.log number turns) (succession.play turns) := by
  induction turns generalizing log succession with
  | nil =>
      rw [Succession.log, List.append_nil]
      exact succeeding
  | cons turn turns ih =>
      rw [Succession.log, ← List.append_assoc]
      exact ih (succeeding.turn turn)

/-- Only the earlier dispatcher is at work while its end is awaited. -/
theorem conclude (succeeding : Succeeding every number log succession) :
    Succeeding every number
      (log ++ entered number (succession.source.since succession.conclude.source))
      succession.conclude := by
  -- The run to the end is made of turns, so that what all turns keep holds after it.
  rcases Succession.exists_play_runToEnd succession.requestStop rfl with ⟨steps, ended⟩
  have played := succeeding.requestStop.play (List.replicate steps .earlier)
  rcases succession.requestStop.exists_log_replicate number steps with ⟨arrived, caught⟩
  rw [caught, ← ended] at played
  have concluded : Succeeding every number (log ++ entered number arrived) succession.conclude :=
    played
  have grown := concluded.books.taken
  rw [List.map_append, succeeding.books.taken, snd_entered] at grown
  rw [Journal.since_eq grown.symm]
  exact concluded

/-- The one dispatcher takes the place of the other. -/
theorem replace (succeeding : Succeeding every number log succession)
    (schedule : Schedule (Journal Source)) (tick : Nat) :
    Succeeding every number (log ++ schedule.exchange tick number succession)
      (schedule.replace tick succession) := by
  have beside := (succeeding.play (schedule.overlap tick succession)).requestStop
  have parting := beside.play (schedule.overlap (tick + 1) (schedule.beside tick succession))
  have concluded := parting.conclude
  rw [List.append_assoc, List.append_assoc] at concluded
  rw [Schedule.exchange, List.append_assoc]
  exact concluded

end Succeeding

end Succeeding

/-! ## One dispatcher after others -/

section Resuming

variable {Source : Type} [EventSource Source]

/-- Two dispatchers are never at work at the same time. -/
def Schedule.Successive (schedule : Schedule Source) : Prop :=
  ∀ (tick : Nat) (succession : Succession Source), schedule.overlap tick succession = []

example : (Schedule.patient : Schedule Source).Successive := fun _ _ => rfl

/-- The tracker has heard of the discovery events in the order in which they were taken. -/
def Tidy (pipeline : Pipeline (Journal Source)) : Prop :=
  ∃ heard : List Notice,
    noticesIn pipeline.source.taken = heard ++ pipeline.dispatcher.phase.unrecorded ∧
      pipeline.tracker = heard.foldl Tracker.record .fresh

/-- One dispatcher keeps the order. -/
theorem Lasting.tidy : Lasting fun pipeline : Pipeline (Journal Source) => Tidy pipeline where
  step := by
    rintro pipeline ⟨heard, split, tracked⟩
    have contribution := pipeline.contribution_step
    refine ⟨heard ++ pipeline.reporting, ?_, ?_⟩
    · rw [contribution.taken, noticesIn_append, split, List.append_assoc, contribution.unrecorded,
        List.append_assoc]
    · rw [contribution.tracker, tracked, List.foldl_append]
  source := by
    rintro pipeline source same ⟨heard, split, tracked⟩
    exact ⟨heard, (congrArg noticesIn same).trans split, tracked⟩

/-- If the later dispatcher has not begun before the earlier one is at its end, the order is
kept. -/
theorem Tidy.replace {succession : Succession (Journal Source)} (tidy : Tidy succession.earlierSide)
    (unbegun : succession.later.phase.unrecorded = []) {schedule : Schedule (Journal Source)}
    (successive : schedule.Successive) (tick : Nat) :
    Tidy (schedule.replace tick succession).laterSide := by
  have alone : schedule.replace tick succession = succession.conclude := by
    rw [Schedule.replace, Schedule.parting, Schedule.beside, successive, successive]
    rfl
  have stopped : Tidy (succession.earlierSide.updateDispatcher Dispatcher.requestStop) := tidy
  rcases Lasting.tidy.join stopped with ⟨heard, split, tracked⟩
  rcases Dispatcher.phase_of_not_running succession.earlierSide.isRunning_join with ⟨exit, phase⟩
  rw [alone]
  refine ⟨heard, ?_, tracked⟩
  rw [phase] at split
  exact split.trans (congrArg (heard ++ ·) unbegun.symm)

/-- A later dispatcher that has begun may be the first to report. -/
example :
    let sensor (identifier : String) : Descriptor := ⟨"LPMS", identifier, .simulated, "sim"⟩
    let source : Script :=
      (Script.ofResults [] []).push [.event (.found (sensor "a")), .event (.found (sensor "b"))]
    let idle : Dispatcher := .spawn 0 (.withCapacity none)
    let both : Succession Script := ⟨source, .fresh, idle, idle⟩
    (both.play [.earlier, .earlier, .later, .later, .later, .later, .earlier,
      .earlier]).tracker.found = [sensor "b", sensor "a"] := by decide +kernel

/-- The dispatcher of the start with this number has taken the place of all others.  It serves
the caller from the events that it took itself; the tracker knows those of the others too. -/
structure Resuming (schedule : Schedule (Journal Source)) (every : UInt64) (number : Nat)
    (log : List (Nat × Event)) (handed : List StreamedSample)
    (pipeline : Pipeline (Journal Source)) : Prop where
  books : Books log pipeline.source.taken pipeline.tracker (owedBy number pipeline.dispatcher)
  numbered : ∀ entry ∈ log, entry.1 ≤ number
  serves : Serves every number log handed pipeline
  tidy : schedule.Successive → Tidy pipeline

namespace Resuming

variable {schedule : Schedule (Journal Source)} {every : UInt64} {number : Nat}
  {log : List (Nat × Event)} {handed : List StreamedSample}
  {pipeline : Pipeline (Journal Source)}

/-- The first dispatcher. -/
theorem spawn (schedule : Schedule (Journal Source)) (every : UInt64) (capacity : Option Nat)
    {source : Journal Source} (untouched : source.taken = []) :
    Resuming schedule every 1 [] [] ⟨source, .fresh, .spawn every (.withCapacity capacity)⟩ where
  books := by
    refine ⟨untouched.symm, [], rfl, ?_⟩
    intro number
    simp [owedBy, Dispatcher.spawn, Phase.unrecorded, entriesOf]
  numbered := List.forall_mem_nil _
  serves := .spawn capacity rfl source .fresh
  tidy := fun _ => ⟨[], congrArg noticesIn untouched, rfl⟩

theorem step (resuming : Resuming schedule every number log handed pipeline) :
    Resuming schedule every number (log ++ entered number pipeline.arriving) handed
      pipeline.step where
  books := by
    apply Books.extend pipeline.contribution_step resuming.books (owedBy_self _ _) (owedBy_self _ _)
    intro other apart
    rw [owedBy_of_ne apart, owedBy_of_ne apart]
  numbered := forall_mem_append_entered resuming.numbered (Nat.le_refl number) _
  serves := resuming.serves.step
  tidy := fun successive => Lasting.tidy.step (resuming.tidy successive)

theorem source (resuming : Resuming schedule every number log handed pipeline)
    {source : Journal Source} (same : source.taken = pipeline.source.taken) :
    Resuming schedule every number log handed { pipeline with source := source } where
  books := by
    rw [same]
    exact resuming.books
  numbered := resuming.numbered
  serves := resuming.serves.beside source pipeline.tracker
  tidy := fun successive => Lasting.tidy.source same (resuming.tidy successive)

/-- What the dispatcher and its consumer do adds to the log only under the number of its
start. -/
theorem upheld (schedule : Schedule (Journal Source)) (every : UInt64) (number : Nat)
    (log : List (Nat × Event)) :
    Upheld fun handed (pipeline : Pipeline (Journal Source)) => ∃ arrived : List Event,
      Resuming schedule every number (log ++ entered number arrived) handed pipeline where
  lasting := by
    intro handed
    constructor
    · rintro pipeline ⟨arrived, resuming⟩
      have stepped := resuming.step
      rw [List.append_assoc, ← entered_append] at stepped
      exact ⟨_, stepped⟩
    · rintro pipeline source same ⟨arrived, resuming⟩
      exact ⟨arrived, resuming.source same⟩
  receive := by
    rintro handed pipeline ⟨arrived, books, numbered, serves, tidy⟩
    exact ⟨arrived, books, numbered, serves.receive, tidy⟩

/-- Nothing was taken. -/
theorem stay (resuming : Resuming schedule every number log handed pipeline) :
    ∃ arrived : List Event,
      Resuming schedule every number (log ++ entered number arrived) handed pipeline := by
  refine ⟨[], ?_⟩
  rw [entered_nil, List.append_nil]
  exact resuming

/-- The log grows as the journal does. -/
theorem of_grown {first : Journal Source} (all : log.map Prod.snd = first.taken)
    (grown : ∃ arrived : List Event,
      Resuming schedule every number (log ++ entered number arrived) handed pipeline) :
    Resuming schedule every number (log ++ entered number (first.since pipeline.source)) handed
      pipeline := by
  rcases grown with ⟨arrived, resuming⟩
  have taken := resuming.books.taken
  rw [List.map_append, all, snd_entered] at taken
  rw [Journal.since_eq taken.symm]
  exact resuming

/-- The dispatcher of the next start is put beside it. -/
theorem succeeding {source : Journal Source} {tracker : Tracker} {earlier : Dispatcher}
    (resuming : Resuming schedule every number log handed ⟨source, tracker, earlier⟩)
    (capacity : Option Nat) :
    Succeeding every number log
      ⟨source, tracker, earlier, .spawn every (.withCapacity capacity)⟩ where
  books := by
    apply resuming.books.congr
    intro other
    simp [owedBy, Dispatcher.spawn, Phase.unrecorded]
  numbered := fun entry member => Nat.le_succ_of_le (resuming.numbered entry member)
  serves := by
    refine .spawn capacity ?_ source tracker
    refine List.eq_nil_iff_forall_not_mem.2 fun event member => ?_
    have early := resuming.numbered _ (mem_entriesOf.1 member)
    exact absurd early (Nat.not_succ_le_self number)

/-- The dispatcher of the next start takes its place. -/
theorem replace {source : Journal Source} {tracker : Tracker} {earlier : Dispatcher}
    (resuming : Resuming schedule every number log handed ⟨source, tracker, earlier⟩)
    (capacity : Option Nat) (tick : Nat) :
    let succession : Succession (Journal Source) :=
      ⟨source, tracker, earlier, .spawn every (.withCapacity capacity)⟩
    Resuming schedule every (number + 1) (log ++ schedule.exchange tick number succession) []
      (schedule.replace tick succession).laterSide := by
  intro succession
  have succeeded := (resuming.succeeding capacity).replace schedule tick
  have halted := Succession.isRunning_replace schedule tick succession
  refine ⟨succeeded.settled halted, succeeded.numbered, succeeded.serves, ?_⟩
  intro successive
  exact (resuming.tidy successive).replace rfl successive tick

end Resuming

end Resuming

end SensorStream
