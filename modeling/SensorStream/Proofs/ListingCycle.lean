import Mathlib.Data.List.Induction
import SensorStream.Device.Rehearsed
import SensorStream.Proofs.Conservation
import SensorStream.Proofs.Findings
import SensorStream.Proofs.Fractions
import SensorStream.Proofs.HubUpkeep

/-!
# One discovery cycle

A listing asks the back ends of a hub one after the other and announces what each of them
answers, while others use the same hub and the same queue.  What it publishes is settled by
the answers alone: the sensors of each back end in its order, and after them how far the
listing is.  Whoever takes all of these events knows exactly then that the cycle is complete,
and has found the sensors of all answers.
-/

namespace SensorStream

/-- What a back end says when it is asked for its sensors. -/
abbrev Answer : Type :=
  Except ClientError (List Descriptor)

namespace Answer

/-- The sensors that were listed; none if the listing failed. -/
def sensors : Answer → List Descriptor
  | .ok listed => listed
  | .error _ => []

end Answer

namespace Hub

/-! ## What the answers of so many back ends make a listing publish -/

/-- The sensors of the back end with this number, and how far the listing is then. -/
def announcement (total index : Nat) (answer : Answer) : List Event :=
  answer.sensors.map Event.found ++ [.progress (fraction (index + 1) total)]

/-- The announcements of all back ends in their order. -/
def announcements (total : Nat) (answers : List Answer) : List Event :=
  (answers.mapIdx (announcement total)).flatten

theorem share_eq (total index : Nat) (answer : Answer) :
    share total index answer = announcement total index answer := by
  cases answer <;> rfl

@[simp] theorem announcements_nil (total : Nat) : announcements total [] = [] := rfl

theorem announcements_append (total : Nat) (answers : List Answer) (answer : Answer) :
    announcements total (answers ++ [answer]) =
      announcements total answers ++ announcement total answers.length answer := by
  simp [announcements, List.mapIdx_append]

/-- The announcements of the first back ends come first. -/
theorem announcements_mono (total : Nat) (answers later : List Answer) :
    announcements total answers <+: announcements total (answers ++ later) := by
  rw [announcements, announcements, List.mapIdx_append, List.flatten_append]
  exact List.prefix_append _ _

theorem mem_announcements {total : Nat} {answers : List Answer} {event : Event}
    (member : event ∈ announcements total answers) :
    (∃ sensor : Descriptor, event = .found sensor) ∨
      ∃ done : Nat, 0 < done ∧ done ≤ answers.length ∧ event = .progress (fraction done total) := by
  rcases List.mem_flatten.1 member with ⟨announced, listed, member⟩
  rcases List.mem_mapIdx.1 listed with ⟨index, within, rfl⟩
  rcases List.mem_append.1 member with found | progress
  · rcases List.mem_map.1 found with ⟨sensor, _, rfl⟩
    exact .inl ⟨sensor, rfl⟩
  · cases List.mem_singleton.1 progress
    exact .inr ⟨index + 1, Nat.succ_pos index, within, rfl⟩

theorem isSystem_of_mem_announcements {total : Nat} {answers : List Answer} {event : Event}
    (member : event ∈ announcements total answers) : event.isSystem = true := by
  rcases mem_announcements member with ⟨sensor, rfl⟩ | ⟨done, _, _, rfl⟩ <;> rfl

theorem noticesIn_announcement (total index : Nat) (answer : Answer) :
    noticesIn (announcement total index answer) =
      answer.sensors.map Notice.found ++ [.progress (fraction (index + 1) total)] := by
  rw [announcement, noticesIn_append, noticesIn, List.filterMap_map]
  simp [Function.comp_def]

/-- The announcements report the sensors of all answers. -/
theorem sensors_announcements (total : Nat) (answers : List Answer) :
    (noticesIn (announcements total answers)).filterMap Notice.sensor? =
      answers.flatMap Answer.sensors := by
  induction answers using List.reverseRecOn with
  | nil => rfl
  | append_singleton earlier answer ih =>
      rw [announcements_append, noticesIn_append, List.filterMap_append, ih,
        noticesIn_announcement]
      simp [Notice.sensor?, List.filterMap_map, Function.comp_def]

section Whole

variable {total : Nat} {answers : List Answer}

/-- The last announcement is that the whole is reached, and no earlier one is. -/
theorem announcements_of_all (some : 0 < total) (bound : total ≤ 2 ^ 24)
    (all : answers.length = total) :
    ∃ earlier : List Event, announcements total answers = earlier ++ [.progress 1] ∧
      ∀ fraction : Float32, .progress fraction ∈ earlier → ¬1 ≤ fraction := by
  rcases List.eq_nil_or_concat answers with rfl | ⟨earlier, last, rfl⟩
  · subst all
    cases some
  · have reached : earlier.length + 1 = total := by simpa using all
    refine ⟨announcements total earlier ++ last.sensors.map Event.found, ?_, ?_⟩
    · rw [List.concat_eq_append, announcements_append, announcement, reached,
        fraction_self some bound, List.append_assoc]
    · intro reported member
      rcases List.mem_append.1 member with member | member
      · rcases mem_announcements member with ⟨sensor, found⟩ | ⟨done, begun, within, progress⟩
        · cases found
        · cases progress
          exact not_one_le_fraction begun (by omega) bound
      · rcases List.mem_map.1 member with ⟨sensor, _, found⟩
        cases found

end Whole

/-! ## The steps of a listing -/

variable {System : Type}

section Step

variable [Backend System]

/-- The answer that a listing gets in its next step, if it asks a back end there. -/
def answered (hub : Hub System) : List Answer :=
  match hub.lister with
  | .scanning index => (hub.systems[index]?.bind Backend.listDevices).toList
  | _ => []

/-- One step of a listing, with the answer that it gets and the event that it publishes. -/
inductive ListStep (hub : Hub System) : List Answer → List Event → Hub System → Prop where
  | ask {index : Nat} {system : System} {answer : Answer}
      (scanning : hub.lister = .scanning index) (next : hub.systems[index]? = some system)
      (answers : Backend.listDevices system = some answer) :
      ListStep hub [answer] []
        { hub with lister := .publishing index (share hub.systems.length index answer) }
  | publish {index : Nat} {event : Event} {later : List Event} {queue : EventQueue}
      (publishing : hub.lister = .publishing index (event :: later))
      (stored : hub.queue.publish event = (.stored, queue)) :
      ListStep hub [] [event] { hub with queue := queue, lister := .publishing index later }
  /-- A measurement would be lost where there is no room. -/
  | lose {index : Nat} {event : Event} {later : List Event} {queue : EventQueue}
      (publishing : hub.lister = .publishing index (event :: later))
      (lost : hub.queue.publish event = (.lost, queue)) :
      ListStep hub [] [] { hub with queue := queue, lister := .publishing index later }
  | refuse {index : Nat} {event : Event} {later : List Event}
      (publishing : hub.lister = .publishing index (event :: later))
      (closed : hub.queue.closed = true) :
      ListStep hub [] [] { hub with lister := .finishing }
  | goOn {index : Nat} (published : hub.lister = .publishing index []) :
      ListStep hub [] [] { hub with lister := .scanning (index + 1) }
  | exhaust {index : Nat} (scanning : hub.lister = .scanning index)
      (last : hub.systems[index]? = none) :
      ListStep hub [] [] { hub with lister := .finishing }
  | finish (finishing : hub.lister = .finishing) :
      ListStep hub [] [] { hub with listing := false, lister := .absent }

/-- These are the steps that a listing takes. -/
theorem listStep?_eq_some_iff {hub next : Hub System} :
    hub.listStep? = some next ↔
      ∃ (answers : List Answer) (events : List Event), hub.ListStep answers events next := by
  constructor
  · intro steps
    rw [listStep?] at steps
    split at steps
    · cases steps
    · rename_i index scanning
      split at steps
      · rename_i last
        cases steps
        exact ⟨_, _, .exhaust scanning last⟩
      · rename_i system found
        rcases Option.map_eq_some_iff.1 steps with ⟨answer, answers, rfl⟩
        exact ⟨_, _, .ask scanning found answers⟩
    · rename_i index published
      cases steps
      exact ⟨_, _, .goOn published⟩
    · rename_i index event later publishing
      split at steps
      · cases steps
      · rename_i refused
        cases steps
        exact ⟨_, _, .refuse publishing (EventQueue.closed_of_publish_refused refused)⟩
      · rename_i publication queue notHeld notRefused published
        cases steps
        cases publication with
        | stored => exact ⟨_, _, .publish publishing published⟩
        | lost => exact ⟨_, _, .lose publishing published⟩
        | held => exact absurd rfl notHeld
        | refused => exact absurd rfl notRefused
    · rename_i finishing
      cases steps
      exact ⟨_, _, .finish finishing⟩
  · rintro ⟨answers, events, step⟩
    rw [listStep?]
    cases step with
    | ask scanning next answers => simp only [scanning, next, answers, Option.map_some]
    | publish publishing stored => simp only [publishing, stored]
    | lose publishing lost => simp only [publishing, lost]
    | refuse publishing closed =>
        simp only [publishing, EventQueue.publish, closed, if_true]
    | goOn published => simp only [published]
    | exhaust scanning last => simp only [scanning, last]
    | finish finishing => simp only [finishing]

/-- The answers of a step are those of the back end that is asked there. -/
theorem ListStep.answers_eq {hub next : Hub System} {answers : List Answer} {events : List Event}
    (step : hub.ListStep answers events next) : answers = hub.answered := by
  rw [answered]
  cases step with
  | ask scanning next answers => simp [scanning, next, answers]
  | exhaust scanning last => simp [scanning, last]
  | publish lister | lose lister | refuse lister | goOn lister | finish lister => rw [lister]

/-- The events of a step are those that it puts into the queue. -/
theorem ListStep.pending_eq {hub next : Hub System} {answers : List Answer} {events : List Event}
    (step : hub.ListStep answers events next) :
    next.queue.pending = hub.queue.pending ++ events := by
  cases step with
  | publish _ stored =>
      exact EventQueue.pending_of_offer? (EventQueue.offer?_of_publish_stored stored)
  | lose _ lost =>
      rw [(EventQueue.of_publish_lost lost).2.2, List.append_nil]
      rfl
  | ask | refuse | goOn | exhaust | finish => exact (List.append_nil _).symm

/-- A listing does nothing to the queue but put events into it. -/
theorem exists_put {hub next : Hub System} (step : hub.listStep? = some next) :
    ∃ events : List Event, next.queue.pending = hub.queue.pending ++ events := by
  rcases listStep?_eq_some_iff.1 step with ⟨_, events, step⟩
  exact ⟨events, step.pending_eq⟩

/-- What is put into the queue in a step is what the step publishes. -/
theorem listStep_of_put {hub next : Hub System} {events : List Event}
    (step : hub.listStep? = some next)
    (put : next.queue.pending = hub.queue.pending ++ events) :
    hub.ListStep hub.answered events next := by
  rcases listStep?_eq_some_iff.1 step with ⟨answers, published, step⟩
  have same := List.append_cancel_left (step.pending_eq.symm.trans put)
  rw [← step.answers_eq, ← same]
  exact step

/-- Why a listing does not take another step: it is over, a back end does not answer, or there
is no room in an open queue. -/
inductive Waits (hub : Hub System) : Prop where
  | ended (lister : hub.lister = .absent)
  | unanswered {index : Nat} {system : System} (lister : hub.lister = .scanning index)
      (asked : hub.systems[index]? = some system) (silent : Backend.listDevices system = none)
  | full {index : Nat} {event : Event} {later : List Event}
      (lister : hub.lister = .publishing index (event :: later))
      (opened : hub.queue.closed = false) (full : hub.queue.isFull = true)

theorem waits_of_listStep?_none {hub : Hub System} (stuck : hub.listStep? = none) : hub.Waits := by
  rw [listStep?] at stuck
  split at stuck
  · rename_i absent
    exact .ended absent
  · rename_i index scanning
    split at stuck
    · cases stuck
    · rename_i system found
      exact .unanswered scanning found (Option.map_eq_none_iff.1 stuck)
  · cases stuck
  · rename_i index event later publishing
    split at stuck
    · rename_i held
      rcases EventQueue.of_publish_held held with ⟨opened, full⟩
      exact .full publishing opened full
    · cases stuck
    · cases stuck
  · cases stuck

end Step

/-! ## What happens meanwhile -/

/-- Others have used the hub.  The listing is where it was, there are as many back ends as
before, in whatever state, and the queue was not opened again. -/
structure Outside (hub later : Hub System) : Prop where
  lister : later.lister = hub.lister
  count : later.systems.length = hub.systems.length
  closed : hub.queue.closed = true → later.queue.closed = true

variable [Backend System]

/-- The course of a listing from its beginning: after so many steps it has had these answers
and put these events into the queue. -/
inductive Cycle (begun : Hub System) : Nat → List Answer → List Event → Hub System → Prop where
  | begin : Cycle begun 0 [] [] begun
  | outside {steps : Nat} {answers : List Answer} {published : List Event}
      {hub later : Hub System} (earlier : Cycle begun steps answers published hub)
      (changed : hub.Outside later) : Cycle begun steps answers published later
  | act {steps : Nat} {answers : List Answer} {published events : List Event}
      {hub next : Hub System} (earlier : Cycle begun steps answers published hub)
      (step : hub.listStep? = some next)
      (put : next.queue.pending = hub.queue.pending ++ events) :
      Cycle begun (steps + 1) (answers ++ hub.answered) (published ++ events) next

/-- How many steps a listing still takes that neither ask nor publish. -/
def slack : Lister → Nat
  | .scanning _ => 2
  | .publishing _ _ => 3
  | .finishing => 1
  | .absent => 0

/-- What was announced so far and what is to come. -/
def Announced (total : Nat) (answers : List Answer) (published : List Event) (closed : Bool) :
    Lister → Prop
  | .scanning index => answers.length = index ∧ published = announcements total answers
  | .publishing index events =>
      answers.length = index + 1 ∧ published ++ events = announcements total answers
  | _ =>
      answers.length = total ∧ published = announcements total answers ∨
        closed = true ∧ published <+: announcements total answers

/-- What holds at every moment of a listing of so many back ends. -/
structure Regular (total steps : Nat) (answers : List Answer) (published : List Event)
    (hub : Hub System) : Prop where
  count : hub.systems.length = total
  answered : answers.length ≤ total
  paced : steps + slack hub.lister ≤ 2 * answers.length + published.length + 2
  announced : Announced total answers published hub.queue.closed hub.lister

namespace Regular

variable {total steps : Nat} {answers : List Answer} {published : List Event}
variable {hub later : Hub System}

omit [Backend System] in
theorem begin (scanning : hub.lister = .scanning 0) :
    hub.Regular hub.systems.length 0 [] [] where
  count := rfl
  answered := Nat.zero_le _
  paced := by
    rw [scanning]
    decide
  announced := by
    rw [scanning]
    exact ⟨rfl, rfl⟩

omit [Backend System] in
theorem outside (regular : hub.Regular total steps answers published)
    (changed : hub.Outside later) : later.Regular total steps answers published where
  count := changed.count.trans regular.count
  answered := regular.answered
  paced := by
    rw [changed.lister]
    exact regular.paced
  announced := by
    have announced := regular.announced
    rw [changed.lister]
    cases lister : hub.lister with
    | scanning index | publishing index events =>
        rw [lister] at announced
        exact announced
    | finishing | absent =>
        rw [lister] at announced
        rcases announced with complete | ⟨closed, begun⟩
        · exact .inl complete
        · exact .inr ⟨changed.closed closed, begun⟩

theorem act (regular : hub.Regular total steps answers published) {answered : List Answer}
    {events : List Event} (step : hub.ListStep answered events later) :
    later.Regular total (steps + 1) (answers ++ answered) (published ++ events) := by
  rcases regular with ⟨count, bound, paced, announced⟩
  cases step with
  | ask scanning next _ =>
      rw [scanning] at paced announced
      rcases announced with ⟨rfl, announced⟩
      have within := (List.getElem?_eq_some_iff.1 next).1
      rw [count] at within
      refine ⟨count, ?_, ?_, ?_, ?_⟩
      · rw [List.length_append]
        exact within
      · simp only [slack, List.length_append, List.length_singleton, List.append_nil] at paced ⊢
        omega
      · simp
      · rw [announcements_append, announced, List.append_nil, share_eq, count]
  | publish publishing stored =>
      rw [publishing] at paced announced
      refine ⟨count, by simpa using bound, ?_, ?_⟩
      · simp only [slack, List.length_append, List.length_singleton, List.append_nil] at paced ⊢
        omega
      · simpa [Announced] using announced
  | @lose index event coming queue publishing lost =>
      -- Only a measurement is lost, and no announcement is one.
      rw [publishing] at announced
      have member : event ∈ announcements total answers := by
        rw [← announced.2]
        exact List.mem_append_right _ (List.mem_cons_self ..)
      have measured := EventQueue.isSystem_of_publish_lost lost
      cases measured.symm.trans (isSystem_of_mem_announcements member)
  | refuse publishing closed =>
      rw [publishing] at paced announced
      refine ⟨count, by simpa using bound, ?_, .inr ⟨closed, ?_⟩⟩
      · simp only [slack, List.append_nil] at paced ⊢
        omega
      · rw [List.append_nil, List.append_nil, ← announced.2]
        exact List.prefix_append _ _
  | goOn done =>
      rw [done] at paced announced
      refine ⟨count, by simpa using bound, ?_, ?_⟩
      · simp only [slack, List.append_nil] at paced ⊢
        omega
      · simpa [Announced] using announced
  | exhaust scanning last =>
      rw [scanning] at paced announced
      rcases announced with ⟨rfl, announced⟩
      have beyond := List.getElem?_eq_none_iff.1 last
      refine ⟨count, by simpa using bound, ?_, .inl ⟨?_, ?_⟩⟩
      · simp only [slack, List.append_nil] at paced ⊢
        omega
      · rw [List.append_nil]
        omega
      · rw [List.append_nil, List.append_nil]
        exact announced
  | finish finishing =>
      rw [finishing] at paced announced
      refine ⟨count, by simpa using bound, ?_, ?_⟩
      · simp only [slack, List.append_nil] at paced ⊢
        omega
      · simpa [Announced] using announced

omit [Backend System] in
/-- What was published is the beginning of what is announced. -/
theorem published_begins (regular : hub.Regular total steps answers published) :
    published <+: announcements total answers := by
  have announced := regular.announced
  cases lister : hub.lister with
  | scanning index =>
      rw [lister] at announced
      exact announced.2 ▸ List.prefix_rfl
  | publishing index events =>
      rw [lister] at announced
      exact announced.2 ▸ List.prefix_append _ _
  | finishing | absent =>
      rw [lister] at announced
      rcases announced with ⟨_, announced⟩ | ⟨_, begun⟩
      · exact announced ▸ List.prefix_rfl
      · exact begun

omit [Backend System] in
/-- A listing that is over has published everything, unless the queue was closed. -/
theorem complete (regular : hub.Regular total steps answers published)
    (finished : hub.lister = .finishing ∨ hub.lister = .absent)
    (opened : hub.queue.closed = false) :
    answers.length = total ∧ published = announcements total answers := by
  have announced := regular.announced
  rw [opened] at announced
  rcases finished with lister | lister <;> rw [lister] at announced
  all_goals
    rcases announced with complete | ⟨closed, _⟩
    · exact complete
    · cases closed

end Regular

theorem Cycle.regular {begun hub : Hub System} {steps : Nat} {answers : List Answer}
    {published : List Event} (scanning : begun.lister = .scanning 0)
    (cycle : Cycle begun steps answers published hub) :
    hub.Regular begun.systems.length steps answers published := by
  induction cycle with
  | begin => exact .begin scanning
  | outside _ changed ih => exact ih.outside changed
  | act _ step put ih => exact ih.act (listStep_of_put step put)

/-! ## What a listing publishes, and what its consumer makes of it -/

/-- A dispatcher was started with a fresh tracker, and whatever happened to it, now it rests
and has taken these discovery events, with any device traffic between them. -/
inductive Consumed {Source : Type} [EventSource Source] (events : List Event) :
    Pipeline (Journal Source) → Prop where
  | intro (every : UInt64) (capacity : Option Nat) (source : Source)
      (occurrences : List (Occurrence Source))
      (resting :
        ((Course.start every capacity source).run occurrences).pipeline.dispatcher.Resting)
      (taken : noticesIn
        ((Course.start every capacity source).run occurrences).pipeline.source.taken =
          noticesIn events) :
      Consumed events ((Course.start every capacity source).run occurrences).pipeline

/-- The tracker of such a dispatcher knows just these events. -/
theorem Consumed.tracker_eq {Source : Type} [EventSource Source] {events : List Event}
    {pipeline : Pipeline (Journal Source)} (consumed : Consumed events pipeline) :
    pipeline.tracker = (noticesIn events).foldl Tracker.record .fresh := by
  rcases consumed with ⟨every, capacity, source, occurrences, resting, taken⟩
  rcases ((Course.counted_start every capacity source).run occurrences).recorded with
    ⟨recorded, split, tracked⟩
  rw [resting.settled.2.1, List.append_nil] at split
  rw [tracked, ← split, taken]

/-- What a listing of so many back ends comes to. -/
structure Lawful (total steps : Nat) (answers : List Answer) (published : List Event)
    (hub : Hub System) : Prop where
  answered : answers.length ≤ total
  /-- What is published are the first announcements, whatever the other back ends will say. -/
  ordered : ∀ later : List Answer, published <+: announcements total (answers ++ later)
  /-- It is not over before everything is announced, unless the queue was closed. -/
  complete : hub.lister = .finishing ∨ hub.lister = .absent → hub.queue.closed = false →
    answers.length = total ∧ published = announcements total answers
  /-- It gets on unless a back end keeps it waiting or there is no room in an open queue. -/
  getsOn : hub.listStep? = none → hub.Waits
  /-- And then it does nothing to the queue but put events into it. -/
  puts : ∀ {next : Hub System}, hub.listStep? = some next →
    ∃ events : List Event, next.queue.pending = hub.queue.pending ++ events
  /-- It does not go on for ever. -/
  paced : steps ≤ 2 * answers.length + published.length + 2
  /-- The whole is reached with the last announcement and not before. -/
  whole : answers.length = total →
    ∃ earlier : List Event, announcements total answers = earlier ++ [.progress 1] ∧
      ∀ fraction : Float32, .progress fraction ∈ earlier → ¬1 ≤ fraction
  /-- Whoever has taken all announcements has found the sensors of all answers. -/
  discovered : answers.length = total → ∀ {Source : Type} [EventSource Source]
    {pipeline : Pipeline (Journal Source)}, Consumed (announcements total answers) pipeline →
      pipeline.tracker.sensors? = some (answers.flatMap Answer.sensors) ∧
        pipeline.tracker.progress = 1
  /-- Whoever has not taken all of them is not told of any sensor. -/
  hidden : answers.length = total → ∀ {taken missing : List Event},
    taken ++ missing = announcements total answers → missing ≠ [] →
      ∀ {Source : Type} [EventSource Source] {pipeline : Pipeline (Journal Source)},
        Consumed taken pipeline → pipeline.tracker.sensors? = none

section Consumer

variable {total : Nat} {answers : List Answer}
variable {Source : Type} [EventSource Source] {pipeline : Pipeline (Journal Source)}

/-- No discovery event before the last one completes the cycle. -/
theorem not_completes_of_parts {earlier : List Event}
    (parts : ∀ fraction : Float32, .progress fraction ∈ earlier → ¬1 ≤ fraction) :
    ∀ notice ∈ noticesIn earlier, ¬notice.Completes := by
  intro notice member
  rcases List.mem_filterMap.1 member with ⟨event, listed, carried⟩
  rcases event with ⟨_ | handle, payload⟩ <;> cases payload <;> cases carried
  · exact not_false
  · exact parts _ listed

theorem sensors?_of_consumed (some : 0 < total) (bound : total ≤ 2 ^ 24)
    (all : answers.length = total) (consumed : Consumed (announcements total answers) pipeline) :
    pipeline.tracker.sensors? = .some (answers.flatMap Answer.sensors) ∧
      pipeline.tracker.progress = 1 := by
  rcases announcements_of_all some bound all with ⟨earlier, announced, parts⟩
  rcases @Tracker.foldl_record_of_incomplete .fresh rfl _ (not_completes_of_parts parts) with
    ⟨incomplete, found⟩
  have reported : (noticesIn earlier).filterMap Notice.sensor? =
      answers.flatMap Answer.sensors := by
    rw [← sensors_announcements total answers, announced, noticesIn_append]
    simp [Notice.sensor?]
  have tracker := consumed.tracker_eq
  rw [announced, noticesIn_append, List.foldl_append] at tracker
  have completed : pipeline.tracker.complete = true := by
    rw [tracker]
    exact (Tracker.complete_record _ (.progress 1)).2 (.inr (by decide : (1 : Float32) ≤ 1))
  have kept : pipeline.tracker.found = answers.flatMap Answer.sensors := by
    rw [tracker, ← reported]
    change (Tracker.record _ (.progress 1)).found = _
    rw [Tracker.found_record incomplete, found]
    exact List.append_nil _
  rw [Tracker.sensors?, Tracker.progress, completed, kept]
  exact ⟨rfl, rfl⟩

theorem sensors?_of_missing (some : 0 < total) (bound : total ≤ 2 ^ 24)
    (all : answers.length = total) {taken missing : List Event}
    (split : taken ++ missing = announcements total answers) (rest : missing ≠ [])
    (consumed : Consumed taken pipeline) : pipeline.tracker.sensors? = none := by
  rcases announcements_of_all some bound all with ⟨earlier, announced, parts⟩
  rw [announced, ← List.dropLast_concat_getLast rest, ← List.append_assoc] at split
  have begun : taken ++ missing.dropLast = earlier := (List.append_inj' split rfl).1
  have incomplete := (@Tracker.foldl_record_of_incomplete .fresh rfl _
    (not_completes_of_parts fun fraction member =>
      parts fraction (begun ▸ List.mem_append_left _ member))).1
  rw [← consumed.tracker_eq] at incomplete
  rw [Tracker.sensors?, incomplete]
  rfl

end Consumer

/-- One listing of `1` to `2 ^ 24` back ends, whatever they answer and whatever others do to the
hub and its queue meanwhile. -/
theorem Cycle.lawful {hub later : Hub System} {steps : Nat} {answers : List Answer}
    {published : List Event} (some : 1 ≤ hub.systems.length) (bound : hub.systems.length ≤ 2 ^ 24)
    (cycle : Cycle hub.claimListing.startLister steps answers published later) :
    later.Lawful hub.systems.length steps answers published := by
  have regular := cycle.regular rfl
  constructor
  · exact regular.answered
  · intro later
    exact regular.published_begins.trans (announcements_mono _ answers later)
  · exact regular.complete
  · exact waits_of_listStep?_none
  · exact exists_put
  · exact Nat.le_trans (Nat.le_add_right _ _) regular.paced
  · exact announcements_of_all some bound
  · exact fun all => sensors?_of_consumed some bound all
  · exact fun all _ _ split rest => sensors?_of_missing some bound all split rest

/-- The sensor that one back end lists. -/
def listed : Descriptor :=
  ⟨"a", "", .simulated, ""⟩

/-- The other back end fails to list. -/
def uneven : Hub RehearsedBackend :=
  .fresh [⟨.simulated, .ok [listed], [], true⟩, ⟨.hid, .error .sourceClosed, [], true⟩] 1

/-- Two back ends, of which one lists a sensor and the other fails, share a queue with room for
one event, and a consumer takes the events as they come. -/
theorem lawful_of_small_queue :
    ∃ (hub later : Hub RehearsedBackend) (answers : List Answer),
      Cycle hub.claimListing.startLister 9 answers (announcements 2 answers) later ∧
        later.lister = .absent ∧
        answers.flatMap Answer.sensors = [⟨"a", "", .simulated, ""⟩] ∧
        later.Lawful 2 9 answers (announcements 2 answers) := by
  have begun := @Cycle.begin _ _ uneven.claimListing.startLister
  have found := Cycle.act (Cycle.act begun rfl rfl) rfl rfl
  -- The consumer takes an event, and there is room for the next one.
  have taken := @Cycle.outside _ _ _ _ _ _ _
    { uneven.claimListing.startLister with lister := .publishing 0 [.progress (fraction 1 2)] }
    found ⟨rfl, rfl, id⟩
  have half := Cycle.act (Cycle.act taken rfl rfl) rfl rfl
  have halfTaken := @Cycle.outside _ _ _ _ _ _ _
    { uneven.claimListing.startLister with lister := .scanning 1 } half ⟨rfl, rfl, id⟩
  have whole := Cycle.act (Cycle.act (Cycle.act halfTaken rfl rfl) rfl rfl) rfl rfl
  have ended := Cycle.act (Cycle.act whole rfl rfl) rfl rfl
  exact ⟨uneven, _, [.ok [listed], .error .sourceClosed], ended, rfl, rfl,
    Cycle.lawful (by decide) (by decide) ended⟩

end Hub

end SensorStream
