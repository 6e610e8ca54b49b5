import Mathlib.Data.List.Basic
import SensorStream.Proofs.GeneratorTurns

/-!
# What a generator at work can rely on

Two things are kept in every step, whoever takes it.  The calls of the generator are listed: they
come one after the other, each carries the measurement of its place, and those that have put it into
the queue have done so in this order.  And the generator has arrived at its stage after so many
measurements, all of which were accepted, in no more steps than these take.
-/

namespace SensorStream

/-! ## The calls that have put their events in -/

namespace QueueCall

variable {queue later : EventQueue} {call next : QueueCall} {earlier puts taken takes : List Event}

/-- A call puts in one event at the most. -/
theorem Settled.puts_cases (settled : Settled queue call earlier taken)
    (step : call.Step queue later next puts takes) :
    puts = [] ∨ earlier = [] ∧ ∃ event : Event, puts = [event] := by
  cases step with
  | @store event =>
      cases settled
      exact .inr ⟨rfl, event, rfl⟩
  | _ => exact .inl rfl

/-- What a call has put in is what it is to publish. -/
theorem Settled.event?_of_mem (settled : Settled queue call earlier taken) {event : Event}
    (member : event ∈ earlier) : call.event? = some event := by
  cases settled with
  | stored =>
      rw [List.mem_singleton.1 member]
      rfl
  | _ => cases member

end QueueCall

namespace Traffic

variable {capacity : Nat} {traffic : Traffic} {caller number : Nat} {call next : QueueCall}
variable {queue : EventQueue} {puts takes : List Event} {numbers : List Nat}

theorem not_mem_of_eventsOf_eq_nil {passages : List (Nat × Event)}
    (nothing : eventsOf caller passages = []) : caller ∉ passages.map Prod.fst := by
  intro member
  rcases List.mem_map.1 member with ⟨passage, found, rfl⟩
  have event := mem_eventsOf found
  rw [nothing] at event
  cases event

/-- An event was put in by the call that was to publish it. -/
theorem Booked.event?_of_entered (booked : traffic.Booked capacity) {passage : Nat × Event}
    (member : passage ∈ traffic.entered) : traffic.event? passage.1 = some passage.2 := by
  have put := mem_eventsOf member
  cases calling : traffic.calls[passage.1]? with
  | none =>
      rw [(booked.unattended passage.1 (List.getElem?_eq_none_iff.1 calling)).1] at put
      cases put
  | some call =>
      rw [event?, calling]
      exact (booked.settled passage.1 call calling).event?_of_mem put

/-- The numbers among these whose calls have put their events in, in the order in which they
did. -/
def passed (traffic : Traffic) (numbers : List Nat) : List Nat :=
  (traffic.entered.map Prod.fst).filter (· ∈ numbers)

theorem passed_act_other (other : caller ∉ numbers) :
    (traffic.act caller queue next puts takes).passed numbers = traffic.passed numbers := by
  simp [passed, act, other, Function.comp_def]

theorem passed_act_self (mine : number ∈ numbers) :
    (traffic.act number queue next puts takes).passed numbers =
      traffic.passed numbers ++ puts.map fun _ => number := by
  simp [passed, act, mine, Function.comp_def]

/-- A call that has put nothing in does not count. -/
theorem passed_concat (absent : number ∉ traffic.entered.map Prod.fst) :
    traffic.passed (numbers ++ [number]) = traffic.passed numbers := by
  refine List.filter_congr fun caller member => ?_
  have different : caller ≠ number := fun same => absent (same ▸ member)
  simp [different]

/-- The last one of the calls puts in its event after the others. -/
theorem sublist_passed_act (booked : traffic.Booked capacity)
    (ordered : (traffic.passed (numbers ++ [number])).Sublist (numbers ++ [number]))
    (calling : traffic.calls[number]? = some call)
    (step : call.Step traffic.queue queue next puts takes) :
    ((traffic.act number queue next puts takes).passed (numbers ++ [number])).Sublist
      (numbers ++ [number]) := by
  rw [passed_act_self (List.mem_append_right _ (List.mem_singleton_self number))]
  rcases (booked.settled number call calling).puts_cases step with rfl | ⟨nothing, event, rfl⟩
  · rw [List.map_nil, List.append_nil]
    exact ordered
  · -- Its own number is not among those that have passed, so these are all from before.
    have absent := not_mem_of_eventsOf_eq_nil nothing
    rw [passed_concat absent] at ordered ⊢
    have before : (traffic.passed numbers).Sublist numbers := by
      rcases List.sublist_append_iff.1 ordered with ⟨front, back, split, among, last⟩
      rcases List.sublist_singleton.1 last with rfl | rfl
      · rwa [split, List.append_nil]
      · have member : number ∈ traffic.passed numbers := by simp [split]
        exact absurd (List.mem_filter.1 member).1 absent
    exact before.append (List.Sublist.refl [number])

end Traffic

/-! ## The measurements of a generator -/

namespace Generator

variable {generator : Generator} {count due : Nat}

/-- The measurement that comes after so many others. -/
def sampleAt (generator : Generator) (count : Nat) : Sample :=
  .turning (.ofNat count) generator.period.toSeconds generator.yawRate

/-- The generator when it has published so many measurements. -/
def after (generator : Generator) (count due : Nat) : Generator :=
  { generator with frame := .ofNat count, due := due }

/-- So many measurements are within the limit, if there is one. -/
def Allows (generator : Generator) (count : Nat) : Prop :=
  ∀ limit ∈ generator.limit?, count ≤ limit

theorem frame_sampleAt (generator : Generator) (count : Nat) :
    (generator.sampleAt count).frame.toNat = count % UInt32.size := by
  rw [sampleAt, Sample.turning, UInt64.toNat_toUInt32, UInt64.toNat_ofNat']
  exact Nat.mod_mod_of_dvd count ⟨2 ^ 32, rfl⟩

theorem nextEvent_after (generator : Generator) (count due : Nat) :
    (generator.after count due).nextEvent =
      .measured generator.handle (generator.sampleAt count) := rfl

theorem pause_after (generator : Generator) (count due : Nat) :
    (generator.after count due).pause =
      generator.after (count + 1) (max generator.period.nanoseconds shortestPause) := by
  rw [after, after, pause, UInt64.ofNat_add]
  rfl

/-- These events are some of the first so many measurements, in their order and none twice. -/
def Excerpt (generator : Generator) (count : Nat) (events : List Event) : Prop :=
  ∃ places : List Nat, places.Pairwise (· < ·) ∧ (∀ place ∈ places, place < count) ∧
    events = places.map fun place => .measured generator.handle (generator.sampleAt place)

theorem Excerpt.sublist {events few : List Event} (excerpt : generator.Excerpt count events)
    (among : few.Sublist events) : generator.Excerpt count few := by
  rcases excerpt with ⟨places, ascending, within, rfl⟩
  rcases List.sublist_map_iff.1 among with ⟨kept, below, rfl⟩
  exact ⟨kept, ascending.sublist below, fun place member => within place (below.subset member), rfl⟩

/-- A generator ends at its limit exactly; the counter does not wrap around before. -/
theorem exhausted_after_iff (allowed : generator.Allows count)
    (small : ∀ limit ∈ generator.limit?, limit < UInt64.size) :
    (generator.after count due).exhausted = true ↔ generator.limit? = some count := by
  cases limited : generator.limit? with
  | none => simp [exhausted, after, limited]
  | some limit =>
      have within := allowed limit limited
      have unwrapped : (UInt64.ofNat count).toNat = count :=
        UInt64.toNat_ofNat_of_lt' (Nat.lt_of_le_of_lt within (small limit limited))
      simp only [exhausted, after, limited, unwrapped, decide_eq_true_eq, Option.some.injEq]
      omega

theorem allows_succ (allowed : generator.Allows count)
    (unreached : generator.limit? ≠ some count) : generator.Allows (count + 1) := by
  intro limit limited
  refine Nat.lt_of_le_of_ne (allowed limit limited) ?_
  rintro rfl
  exact unreached limited

end Generator

/-! ## The list of the calls -/

namespace Traffic

/-- The calls of the generator come one after the other and carry its measurements in their
order. -/
structure Listed (first : Generator) (capacity : Nat) (traffic : Traffic) (own : List Nat) :
    Prop where
  reachable : Reachable capacity traffic
  within : ∀ number ∈ own, number < traffic.calls.length
  ordered : own.Pairwise (· < ·)
  numbered : ∀ {place number : Nat}, own[place]? = some number →
    traffic.event? number = some (.measured first.handle (first.sampleAt place))
  passed : (traffic.passed own).Sublist own

namespace Listed

variable {first : Generator} {capacity : Nat} {traffic : Traffic} {own : List Nat}
variable {caller number : Nat} {call next : QueueCall} {queue : EventQueue}
variable {puts takes : List Event}

/-- Another call begins, of whomever. -/
theorem begin (listed : Listed first capacity traffic own) (fresh : call.isFresh = true) :
    Listed first capacity (traffic.begin call) own where
  reachable := listed.reachable.begin fresh
  within := by
    intro number mine
    rw [Traffic.begin, List.length_append]
    exact Nat.lt_add_right _ (listed.within number mine)
  ordered := listed.ordered
  numbered := fun found => event?_begin (listed.numbered found)
  passed := listed.passed

/-- The generator begins a call. -/
theorem publish (listed : Listed first capacity traffic own) :
    Listed first capacity
      (traffic.begin (.publish (.measured first.handle (first.sampleAt own.length)) .looking))
      (own ++ [traffic.calls.length]) where
  reachable := listed.reachable.begin rfl
  within := by
    intro number mine
    rw [Traffic.begin, List.length_append]
    rcases List.mem_append.1 mine with earlier | last
    · exact Nat.lt_add_right _ (listed.within number earlier)
    · rw [List.mem_singleton.1 last]
      exact Nat.lt_succ_self _
  ordered := by
    refine List.pairwise_append.2 ⟨listed.ordered, List.pairwise_singleton _ _, ?_⟩
    intro number earlier last latest
    rw [List.mem_singleton.1 latest]
    exact listed.within number earlier
  numbered := by
    intro place number found
    rw [List.getElem?_append] at found
    split at found
    · exact event?_begin (listed.numbered found)
    · rw [List.getElem?_singleton] at found
      split at found <;> cases found
      have last : place = own.length := by omega
      rw [event?, Traffic.begin, List.getElem?_concat_length, last]
      rfl
  passed := by
    have nothing := (listed.reachable.booked.unattended _ (Nat.le_refl _)).1
    have passed : Traffic.passed _ (own ++ [traffic.calls.length]) = traffic.passed own :=
      passed_concat (not_mem_of_eventsOf_eq_nil nothing)
    exact passed ▸ listed.passed.trans (List.sublist_append_left _ _)

/-- A step on the queue, of the generator or of another, changes no call's event. -/
theorem act (listed : Listed first capacity traffic own)
    (calling : traffic.calls[caller]? = some call)
    (step : call.Step traffic.queue queue next puts takes)
    (passed : ((traffic.act caller queue next puts takes).passed own).Sublist own) :
    Listed first capacity (traffic.act caller queue next puts takes) own where
  reachable := listed.reachable.act calling step
  within := by
    intro number mine
    rw [Traffic.act, List.length_set]
    exact listed.within number mine
  ordered := listed.ordered
  numbered := fun found => (event?_act calling step).trans (listed.numbered found)
  passed := passed

end Listed

end Traffic

/-! ## How far the generator has got -/

/-- How many steps at least a call to publish a measurement has taken. -/
def Publishing.pace : Publishing → Nat
  | looking => 0
  | sending => 1
  | timedOut => 1
  | answered .. => 2

theorem Publishing.pace_le (stage : Publishing) : stage.pace ≤ 2 := by
  cases stage <;> simp [pace]

/-- A call to publish a measurement gets on with every step. -/
theorem QueueCall.Step.pace_lt {queue later : EventQueue} {event : Event} {stage : Publishing}
    {next : QueueCall} {puts takes earlier taken : List Event}
    (step : (publish event stage).Step queue later next puts takes)
    (settled : Settled queue (publish event stage) earlier taken)
    (measured : event.isSystem = false) :
    ∃ further : Publishing, next = publish event further ∧ stage.pace < further.pace := by
  cases step with
  | timeOut system => exact Bool.noConfusion (system.symm.trans measured)
  | giveUp | retry =>
      cases settled with
      | timedOut system => exact Bool.noConfusion (system.symm.trans measured)
  | _ => exact ⟨_, rfl, by simp [Publishing.pace]⟩

namespace Broadcast

variable {first : Generator} {capacity steps : Nat} {broadcast later : Broadcast}
variable {published : List Nat} {round : Round}

/-- How the generator has arrived at a stage of its round, after these calls that were accepted. -/
inductive Arrived (first : Generator) (published : List Nat) (steps : Nat)
    (broadcast : Broadcast) : Round → Prop where
  | looking (own : broadcast.own = published)
      (ready : ∃ due : Nat, broadcast.generator = first.after published.length due)
      (pace : steps ≤ 6 * published.length) : Arrived first published steps broadcast .looking
  | weighing (own : broadcast.own = published)
      (ready : ∃ due : Nat, broadcast.generator = first.after published.length due)
      (pace : steps ≤ 6 * published.length + 1) :
      Arrived first published steps broadcast .weighing
  | publishing {number : Nat} {stage : Publishing} (own : broadcast.own = published ++ [number])
      (ready : ∃ due : Nat, broadcast.generator = first.after published.length due)
      (room : first.Allows (published.length + 1))
      (calling : broadcast.traffic.calls[number]? =
        some (.publish (.measured first.handle (first.sampleAt published.length)) stage))
      (pace : steps ≤ 6 * published.length + 2 + stage.pace) :
      Arrived first published steps broadcast (.publishing number)
  | pausing (own : broadcast.own = published)
      (ready : ∃ due : Nat, broadcast.generator = first.after published.length due)
      (pace : steps < 6 * published.length) : Arrived first published steps broadcast .pausing
  | spent (own : broadcast.own = published)
      (reason : broadcast.stopRequested = true ∨ first.limit? = some published.length)
      (pace : steps ≤ 6 * published.length + 2) : Arrived first published steps broadcast .ended
  | turnedAway {number : Nat} (own : broadcast.own = published ++ [number])
      (room : first.Allows (published.length + 1))
      (refused : broadcast.traffic.told? number = some false)
      (pace : steps ≤ 6 * published.length + 5) : Arrived first published steps broadcast .ended

/-- The generator has arrived at its stage after some measurements that were accepted and are
within its limit. -/
def Underway (first : Generator) (steps : Nat) (broadcast : Broadcast) : Prop :=
  ∃ published : List Nat, (∀ number ∈ published, broadcast.traffic.told? number = some true) ∧
    first.Allows published.length ∧ Arrived first published steps broadcast broadcast.stage

/-- What is kept in every step. -/
structure Sound (first : Generator) (capacity steps : Nat) (broadcast : Broadcast) : Prop where
  listed : Traffic.Listed first capacity broadcast.traffic broadcast.own
  underway : broadcast.Underway first steps
  /-- Who has given the link up has waited for the generator. -/
  joined : ∀ caller : Nat, broadcast.partings[caller]? = some (.returned true) →
    broadcast.stage = .ended

theorem Sound.opened {traffic : Traffic} (used : Traffic.Reachable capacity traffic)
    {due : Nat} (fresh : first = first.after 0 due) :
    (opened traffic first).Sound first capacity 0 where
  listed :=
    { reachable := used
      within := by
        intro number mine
        cases mine
      ordered := .nil
      numbered := by
        intro place number found
        cases found
      passed := by simp [Traffic.passed, Broadcast.opened] }
  underway :=
    ⟨[], by simp, by simp [Generator.Allows], .looking rfl ⟨due, fresh⟩ (Nat.le_refl 0)⟩
  joined := by
    intro caller returned
    cases returned

/-! ### The steps of the generator -/

/-- The generator takes a step, with what becomes of its calls and of its stage. -/
theorem Sound.move {further : Nat} (sound : broadcast.Sound first capacity steps)
    (working : broadcast.stage ≠ .ended) (partings : later.partings = broadcast.partings)
    (listed : Traffic.Listed first capacity later.traffic later.own)
    (underway : later.Underway first further) : later.Sound first capacity further where
  listed := listed
  underway := underway
  joined := by
    intro caller returned
    rw [partings] at returned
    exact absurd (sound.joined caller returned) working

/-- A call that begins carries the measurement after those that were published. -/
theorem Sound.call (sound : broadcast.Sound first capacity steps)
    (small : ∀ limit ∈ first.limit?, limit < UInt64.size) (weighing : broadcast.stage = .weighing)
    (unexhausted : broadcast.generator.exhausted = false) :
    broadcast.call.Sound first capacity (steps + 1) := by
  rcases sound.underway with ⟨published, told, allowed, arrived⟩
  rw [weighing] at arrived
  cases arrived with
  | weighing own ready pace =>
      rcases ready with ⟨due, ready⟩
      have event : broadcast.generator.nextEvent =
          .measured first.handle (first.sampleAt broadcast.own.length) := by
        rw [ready, own, Generator.nextEvent_after]
      have room : first.Allows (published.length + 1) := by
        refine Generator.allows_succ allowed fun reached => ?_
        rw [ready, (Generator.exhausted_after_iff allowed small).2 reached] at unexhausted
        cases unexhausted
      have listed := sound.listed.publish
      rw [← event] at listed
      refine sound.move (weighing ▸ Round.noConfusion) rfl listed ?_
      have further : steps + 1 ≤ 6 * published.length + 2 + Publishing.looking.pace :=
        Nat.succ_le_succ pace
      refine ⟨published, fun number mine => ?_, allowed, ?_⟩
      · exact Traffic.told?_begin (told number mine)
      · refine .publishing (congrArg (· ++ _) own) ⟨due, ready⟩ room ?_ further
        rw [← own, ← event]
        exact List.getElem?_concat_length

/-- The generator's call takes a step on the queue. -/
theorem Sound.publish {number : Nat} {call next : QueueCall} {queue : EventQueue}
    {puts takes : List Event} (sound : broadcast.Sound first capacity steps)
    (publishing : broadcast.stage = .publishing number)
    (calling : broadcast.traffic.calls[number]? = some call)
    (step : call.Step broadcast.traffic.queue queue next puts takes) :
    (broadcast.withTraffic (broadcast.traffic.act number queue next puts takes)).Sound
      first capacity (steps + 1) := by
  have booked := sound.listed.reachable.booked
  rcases sound.underway with ⟨published, told, allowed, arrived⟩
  rw [publishing] at arrived
  cases arrived with
  | publishing own ready room called pace =>
      cases called.symm.trans calling
      rcases step.pace_lt (booked.settled _ _ calling) rfl with ⟨further, rfl, faster⟩
      have passed := sound.listed.passed
      rw [own] at passed
      have passed := Traffic.sublist_passed_act booked passed calling step
      rw [← own] at passed
      have listed := sound.listed.act calling step passed
      refine sound.move (publishing ▸ Round.noConfusion) rfl listed ?_
      refine ⟨published, fun number mine => ?_, allowed, ?_⟩
      · exact Traffic.told?_act (told number mine) calling step
      · rw [withTraffic, publishing]
        exact .publishing own ready room (Traffic.getElem?_act_self calling) (by omega)

/-- The generator has published one more measurement. -/
theorem Sound.pause {number : Nat} (sound : broadcast.Sound first capacity steps)
    (publishing : broadcast.stage = .publishing number)
    (accepted : broadcast.traffic.told? number = some true) :
    broadcast.pause.Sound first capacity (steps + 1) := by
  rcases sound.underway with ⟨published, told, allowed, arrived⟩
  rw [publishing] at arrived
  cases arrived with
  | @publishing _ stage own ready room called pace =>
      rcases ready with ⟨due, ready⟩
      have slower := stage.pace_le
      have longer : (published ++ [number]).length = published.length + 1 := List.length_append
      have paused := first.pause_after published.length due
      rw [← ready, ← longer] at paused
      refine sound.move (publishing ▸ Round.noConfusion) rfl sound.listed ?_
      refine ⟨published ++ [number], fun caller mine => ?_, longer ▸ room, ?_⟩
      · rcases List.mem_append.1 mine with earlier | last
        · exact told caller earlier
        · rw [List.mem_singleton.1 last]
          exact accepted
      · exact .pausing own ⟨_, paused⟩ (by omega)

theorem Sound.own (sound : broadcast.Sound first capacity steps)
    (small : ∀ limit ∈ first.limit?, limit < UInt64.size) (step : broadcast.OwnStep later) :
    later.Sound first capacity (steps + 1) := by
  rcases sound.underway with ⟨published, told, allowed, arrived⟩
  cases step with
  | look looking =>
      rw [looking] at arrived
      cases arrived with
      | looking own ready pace =>
          refine sound.move (looking ▸ Round.noConfusion) rfl sound.listed ?_
          exact ⟨published, told, allowed, .weighing own ready (by omega)⟩
  | obey looking asked =>
      rw [looking] at arrived
      cases arrived with
      | looking own ready pace =>
          refine sound.move (looking ▸ Round.noConfusion) rfl sound.listed ?_
          exact ⟨published, told, allowed, .spent own (.inl asked) (by omega)⟩
  | exhaust weighing exhausted =>
      rw [weighing] at arrived
      cases arrived with
      | weighing own ready pace =>
          rcases ready with ⟨due, ready⟩
          rw [ready, Generator.exhausted_after_iff allowed small] at exhausted
          refine sound.move (weighing ▸ Round.noConfusion) rfl sound.listed ?_
          exact ⟨published, told, allowed, .spent own (.inr exhausted) (by omega)⟩
  | call weighing unexhausted => exact sound.call small weighing unexhausted
  | publish publishing calling step => exact sound.publish publishing calling step
  | goOn publishing accepted => exact sound.pause publishing accepted
  | giveUp publishing refused =>
      rw [publishing] at arrived
      cases arrived with
      | @publishing _ stage own ready room called pace =>
          have slower := stage.pace_le
          refine sound.move (publishing ▸ Round.noConfusion) rfl sound.listed ?_
          exact ⟨published, told, allowed, .turnedAway own room refused (by omega)⟩
  | wake pausing =>
      rw [pausing] at arrived
      cases arrived with
      | pausing own ready pace =>
          refine sound.move (pausing ▸ Round.noConfusion) rfl sound.listed ?_
          exact ⟨published, told, allowed, .looking own ready pace⟩

/-! ### The steps of the others -/

/-- What the others leave alone. -/
structure Keeps (broadcast later : Broadcast) : Prop where
  generator_eq : later.generator = broadcast.generator
  stage_eq : later.stage = broadcast.stage
  own_eq : later.own = broadcast.own
  calls_eq : ∀ number ∈ broadcast.own,
    later.traffic.calls[number]? = broadcast.traffic.calls[number]?
  asked : broadcast.stopRequested = true → later.stopRequested = true

theorem OtherStep.keeps (step : broadcast.OtherStep later)
    (within : ∀ number ∈ broadcast.own, number < broadcast.traffic.calls.length) :
    broadcast.Keeps later := by
  cases step with
  | begin =>
      refine ⟨rfl, rfl, rfl, fun number mine => ?_, id⟩
      exact Traffic.getElem?_begin (within number mine)
  | act other =>
      refine ⟨rfl, rfl, rfl, fun number mine => ?_, id⟩
      exact Traffic.getElem?_act_other fun same => other (same ▸ mine)
  | stop => exact ⟨rfl, rfl, rfl, fun _ _ => rfl, fun _ => rfl⟩
  | _ => exact ⟨rfl, rfl, rfl, fun _ _ => rfl, id⟩

theorem Keeps.told?_eq {number : Nat} (kept : broadcast.Keeps later)
    (mine : number ∈ broadcast.own) :
    later.traffic.told? number = broadcast.traffic.told? number :=
  congrArg (Option.bind · QueueCall.told?) (kept.calls_eq number mine)

theorem Arrived.mem_own {number : Nat} (arrived : Arrived first published steps broadcast round)
    (member : number ∈ published) : number ∈ broadcast.own := by
  cases arrived with
  | publishing own => exact own ▸ List.mem_append_left _ member
  | turnedAway own => exact own ▸ List.mem_append_left _ member
  | _ own => exact own ▸ member

theorem Arrived.keep (arrived : Arrived first published steps broadcast round)
    (kept : broadcast.Keeps later) : Arrived first published steps later round := by
  have own_eq := kept.own_eq
  have generator_eq := kept.generator_eq
  cases arrived with
  | looking own ready pace => exact .looking (own_eq.trans own) (generator_eq ▸ ready) pace
  | weighing own ready pace => exact .weighing (own_eq.trans own) (generator_eq ▸ ready) pace
  | publishing own ready room calling pace =>
      have mine := own ▸ List.mem_append_right published (List.mem_singleton_self _)
      exact .publishing (own_eq.trans own) (generator_eq ▸ ready) room
        ((kept.calls_eq _ mine).trans calling) pace
  | pausing own ready pace => exact .pausing (own_eq.trans own) (generator_eq ▸ ready) pace
  | spent own reason pace => exact .spent (own_eq.trans own) (reason.imp_left kept.asked) pace
  | turnedAway own room refused pace =>
      have mine := own ▸ List.mem_append_right published (List.mem_singleton_self _)
      exact .turnedAway (own_eq.trans own) room ((kept.told?_eq mine).trans refused) pace

theorem Underway.keep (underway : broadcast.Underway first steps) (kept : broadcast.Keeps later) :
    later.Underway first steps := by
  rcases underway with ⟨published, told, allowed, arrived⟩
  refine ⟨published, fun number member => ?_, allowed, kept.stage_eq ▸ arrived.keep kept⟩
  exact (kept.told?_eq (arrived.mem_own member)).trans (told number member)

theorem OtherStep.listed (step : broadcast.OtherStep later)
    (listed : Traffic.Listed first capacity broadcast.traffic broadcast.own) :
    Traffic.Listed first capacity later.traffic later.own := by
  cases step with
  | begin fresh => exact listed.begin fresh
  | act other calling step =>
      refine listed.act calling step ?_
      rw [Traffic.passed_act_other other]
      exact listed.passed
  | _ => exact listed

/-- A call that gives the link up has done so before, or does so now. -/
theorem of_partings_part {caller other : Nat} {stage : Parting}
    (returned : (broadcast.part caller stage).partings[other]? = some (.returned true)) :
    stage = .returned true ∨ broadcast.partings[other]? = some (.returned true) := by
  rw [part, List.getElem?_set] at returned
  split at returned
  · split at returned <;> cases returned
    exact .inl rfl
  · exact .inr returned

theorem OtherStep.joined (step : broadcast.OtherStep later)
    (joined : ∀ caller : Nat, broadcast.partings[caller]? = some (.returned true) →
      broadcast.stage = .ended) (caller : Nat)
    (returned : later.partings[caller]? = some (.returned true)) : later.stage = .ended := by
  cases step with
  | begin | act | store => exact joined caller returned
  | come =>
      rw [List.getElem?_append] at returned
      split at returned
      · exact joined caller returned
      · rw [List.getElem?_singleton] at returned
        split at returned <;> cases returned
  | take | miss | stop =>
      rcases of_partings_part returned with none | before
      · cases none
      · exact joined caller before
  | join _ ended => exact ended

theorem Sound.other (sound : broadcast.Sound first capacity steps)
    (step : broadcast.OtherStep later) : later.Sound first capacity steps where
  listed := step.listed sound.listed
  underway := sound.underway.keep (step.keeps sound.listed.within)
  joined := step.joined sound.joined

theorem sound_of_leads {traffic : Traffic} {due : Nat} (used : Traffic.Reachable capacity traffic)
    (fresh : first = first.after 0 due) (small : ∀ limit ∈ first.limit?, limit < UInt64.size)
    (leads : (opened traffic first).Leads steps later) : later.Sound first capacity steps := by
  induction leads with
  | here => exact .opened used fresh
  | own _ step ih => exact ih.own small step
  | other _ step ih => exact ih.other step

end Broadcast

end SensorStream
