import Mathlib.Data.Option.Basic
import SensorStream.Device.Simulated
import SensorStream.Proofs.GeneratorUpkeep

/-!
# The stream of a simulated sensor

Three things end the stream of a generator: its limit, the queue that was closed, and the link that
was given up.  Whichever comes first, and however the steps of the generator and of all others are
interleaved, its calls carry the frames in their order, none is made after the end, what is consumed
keeps this order, and every measurement that was accepted can be accounted for.
-/

namespace SensorStream

namespace Broadcast

variable {first : Generator} {capacity steps more : Nat} {broadcast later last : Broadcast}

/-! ## It goes on until it ends -/

/-- The generator's call can get on or is answered, whatever the others do. -/
theorem exists_ownStep_of_publishing {number : Nat} {event : Event} {stage : Publishing}
    {puts takes : List Event} (publishing : broadcast.stage = .publishing number)
    (calling : broadcast.traffic.calls[number]? = some (.publish event stage))
    (settled : (QueueCall.publish event stage).Settled broadcast.traffic.queue puts takes)
    (measured : event.isSystem = false) : ∃ next : Broadcast, broadcast.OwnStep next := by
  have told : broadcast.traffic.told? number = (QueueCall.publish event stage).told? :=
    congrArg (Option.bind · QueueCall.told?) calling
  cases settled with
  | looking =>
      cases closed : broadcast.traffic.queue.closed with
      | true => exact ⟨_, .publish publishing calling (.refuse closed)⟩
      | false => exact ⟨_, .publish publishing calling (.pass closed)⟩
  | sending =>
      cases put : broadcast.traffic.queue.put event with
      | mk publication queue =>
          cases publication with
          | refused => exact absurd (congrArg Prod.fst put) EventQueue.put_ne_refused
          | stored => exact ⟨_, .publish publishing calling (.store put)⟩
          | lost => exact ⟨_, .publish publishing calling (.lose put)⟩
          | held =>
              exact Bool.noConfusion (measured.symm.trans (EventQueue.isSystem_of_put_held put))
  | timedOut system => exact Bool.noConfusion (measured.symm.trans system)
  | stored | lost => exact ⟨_, .goOn publishing told⟩
  | refused => exact ⟨_, .giveUp publishing told⟩

theorem Sound.exists_ownStep (sound : broadcast.Sound first capacity steps)
    (working : broadcast.stage ≠ .ended) : ∃ next : Broadcast, broadcast.OwnStep next := by
  rcases sound.underway with ⟨published, _, _, arrived⟩
  cases stage : broadcast.stage with
  | looking =>
      cases asked : broadcast.stopRequested with
      | true => exact ⟨_, .obey stage asked⟩
      | false => exact ⟨_, .look stage asked⟩
  | weighing =>
      cases exhausted : broadcast.generator.exhausted with
      | true => exact ⟨_, .exhaust stage exhausted⟩
      | false => exact ⟨_, .call stage exhausted⟩
  | publishing number =>
      rw [stage] at arrived
      cases arrived with
      | publishing own ready room calling pace =>
          have settled := sound.listed.reachable.booked.settled _ _ calling
          exact exists_ownStep_of_publishing stage calling settled rfl
  | pausing => exact ⟨_, .wake stage⟩
  | ended => exact absurd stage working

/-- A generator with a limit takes no more steps than its measurements need. -/
theorem Sound.steps_le (sound : broadcast.Sound first capacity steps) {limit : Nat}
    (limited : first.limit? = some limit) : steps ≤ 6 * limit + 2 := by
  rcases sound.underway with ⟨published, _, allowed, arrived⟩
  have within := allowed limit limited
  generalize broadcast.stage = round at arrived
  cases arrived with
  | looking own ready pace | weighing own ready pace | pausing own ready pace => omega
  | @publishing number stage own ready room calling pace =>
      have slower := stage.pace_le
      have further := room limit limited
      omega
  | spent own reason pace => omega
  | turnedAway own room refused pace =>
      have further := room limit limited
      omega

theorem Sound.allows (sound : broadcast.Sound first capacity steps) :
    first.Allows broadcast.own.length := by
  rcases sound.underway with ⟨published, _, allowed, arrived⟩
  generalize broadcast.stage = round at arrived
  cases arrived with
  | looking own | weighing own | pausing own | spent own => exact own ▸ allowed
  | publishing own _ room | turnedAway own room =>
      rw [own, List.length_append]
      exact room

/-- Nobody but the limit has ended it, where the queue is open and nobody has asked it to stop. -/
theorem Sound.limit?_of_ended (sound : broadcast.Sound first capacity steps)
    (ended : broadcast.stage = .ended) (opened : broadcast.traffic.queue.closed = false)
    (unasked : broadcast.stopRequested = false) :
    first.limit? = some broadcast.own.length := by
  rcases sound.underway with ⟨published, _, _, arrived⟩
  rw [ended] at arrived
  cases arrived with
  | spent own reason =>
      rcases reason with asked | reached
      · exact Bool.noConfusion (asked.symm.trans unasked)
      · rw [own]
        exact reached
  | turnedAway own room refused =>
      rcases Option.bind_eq_some_iff.1 refused with ⟨call, calling, told⟩
      rcases sound.listed.reachable.booked.books_of_call calling with ⟨_, _, _, _, settled⟩
      cases settled with
      | refused closed => exact Bool.noConfusion (closed.symm.trans opened)
      | _ => cases told

/-! ## And nothing comes after the end -/

/-- The generator begins no call any more. -/
def Silent (broadcast : Broadcast) : Prop :=
  broadcast.stage = .ended ∨
    ∃ number : Nat, broadcast.stage = .publishing number ∧
      broadcast.traffic.told? number = some false

theorem Silent.own (silent : broadcast.Silent) (step : broadcast.OwnStep later) :
    later.Silent ∧ later.own = broadcast.own := by
  rcases silent with ended | ⟨number, publishing, refused⟩
  · cases step with
    | _ stage => cases ended.symm.trans stage
  · cases step with
    | publish stage calling step =>
        cases publishing.symm.trans stage
        rw [Traffic.told?, calling, Option.bind_some, step.told?_eq_none] at refused
        cases refused
    | goOn stage accepted =>
        cases publishing.symm.trans stage
        cases refused.symm.trans accepted
    | giveUp => exact ⟨.inl rfl, rfl⟩
    | _ stage => cases publishing.symm.trans stage

theorem Silent.other (silent : broadcast.Silent) (step : broadcast.OtherStep later) :
    later.Silent ∧ later.own = broadcast.own := by
  have stage_eq : later.stage = broadcast.stage := by cases step <;> rfl
  have own_eq : later.own = broadcast.own := by cases step <;> rfl
  refine ⟨?_, own_eq⟩
  rcases silent with ended | ⟨number, publishing, refused⟩
  · exact .inl (stage_eq.trans ended)
  · refine .inr ⟨number, stage_eq.trans publishing, ?_⟩
    cases step with
    | begin => exact Traffic.told?_begin refused
    | act _ calling step => exact Traffic.told?_act refused calling step
    | _ => exact refused

theorem Silent.leads (silent : broadcast.Silent) (leads : broadcast.Leads more last) :
    last.Silent ∧ last.own = broadcast.own := by
  induction leads with
  | here => exact ⟨silent, rfl⟩
  | own _ step ih => exact (ih.1.own step).imp_right fun same => same.trans ih.2
  | other _ step ih => exact (ih.1.other step).imp_right fun same => same.trans ih.2

/-- Three things silence it: its end, an answer that turned it away, and the link given up. -/
theorem Sound.silent (sound : broadcast.Sound first capacity steps)
    (finished : broadcast.stage = .ended ∨
      (∃ number ∈ broadcast.own, broadcast.traffic.told? number = some false) ∨
        ∃ caller : Nat, broadcast.partings[caller]? = some (.returned true)) :
    broadcast.Silent := by
  rcases finished with ended | ⟨number, mine, refused⟩ | ⟨caller, returned⟩
  · exact .inl ended
  · rcases sound.underway with ⟨published, told, _, arrived⟩
    have unpublished : number ∉ published := fun member => by
      cases refused.symm.trans (told number member)
    generalize round_eq : broadcast.stage = round at arrived
    cases arrived with
    | looking own | weighing own | pausing own => exact absurd (own ▸ mine) unpublished
    | publishing own =>
        rw [own] at mine
        rcases List.mem_append.1 mine with earlier | last
        · exact absurd earlier unpublished
        · cases List.mem_singleton.1 last
          exact .inr ⟨number, round_eq, refused⟩
    | spent | turnedAway => exact .inl round_eq
  · exact .inl (sound.joined caller returned)

end Broadcast

/-! ## What is consumed, and what becomes of the rest -/

namespace Traffic

namespace Listed

variable {first : Generator} {capacity : Nat} {traffic : Traffic} {own : List Nat}

/-- What the generator's calls have put in are some of its measurements, in their order. -/
theorem excerpt_entered (listed : Listed first capacity traffic own) :
    first.Excerpt own.length ((traffic.entered.filter (·.1 ∈ own)).map Prod.snd) := by
  rcases List.sublist_eq_map_getElem listed.passed with ⟨indices, ordered, ascending⟩
  refine ⟨indices.map Fin.val, List.pairwise_map.2 ascending, ?_, ?_⟩
  · intro place member
    rcases List.mem_map.1 member with ⟨index, _, rfl⟩
    exact index.isLt
  · apply List.map_injective_iff.2 (Option.some_injective Event)
    calc
      ((traffic.entered.filter (·.1 ∈ own)).map Prod.snd).map some
          = (traffic.entered.filter (·.1 ∈ own)).map fun passage => traffic.event? passage.1 := by
        rw [List.map_map]
        refine List.map_congr_left fun passage member => ?_
        exact (listed.reachable.booked.event?_of_entered (List.mem_of_mem_filter member)).symm
      _ = (traffic.passed own).map traffic.event? := by
        rw [Traffic.passed, List.filter_map, List.map_map]
        rfl
      _ = (indices.map fun index => own[index]).map traffic.event? := by rw [ordered]
      _ = ((indices.map Fin.val).map fun place =>
            Event.measured first.handle (first.sampleAt place)).map some := by
        rw [List.map_map, List.map_map, List.map_map]
        refine List.map_congr_left fun index _ => ?_
        exact listed.numbered (List.getElem?_eq_getElem index.isLt)

/-- What is consumed under a handle that nobody else publishes under are some of the generator's
measurements, in their order. -/
theorem consumed (listed : Listed first capacity traffic own)
    (unshared : ∀ {number : Nat} {event : Event}, traffic.event? number = some event →
      event.sensor = some first.handle → number ∈ own) :
    first.Excerpt own.length
      (traffic.delivered.filter fun event => event.sensor = some first.handle) := by
  have booked := listed.reachable.booked
  -- Under its handle went in what its calls have put in, and nothing else.
  have handled : ((traffic.entered.map Prod.snd).filter fun event =>
      event.sensor = some first.handle) = (traffic.entered.filter (·.1 ∈ own)).map Prod.snd := by
    rw [List.filter_map]
    refine congrArg _ (List.filter_congr fun passage member => decide_eq_decide.2 ⟨?_, ?_⟩)
    · exact unshared (booked.event?_of_entered member)
    · intro mine
      rcases List.mem_iff_getElem?.1 mine with ⟨place, found⟩
      have event := booked.event?_of_entered member
      rw [listed.numbered found] at event
      exact congrArg Event.sensor (Option.some.inj event).symm
  have out : traffic.delivered.Sublist (traffic.entered.map Prod.snd) := by
    rw [booked.ordered]
    exact (List.filter_sublist.map Prod.snd).trans (List.sublist_append_left _ _)
  have handed := out.filter fun event => event.sensor = some first.handle
  rw [handled] at handed
  exact listed.excerpt_entered.sublist handed

/-- Where only the generator publishes measurements, its accepted calls are all that are. -/
theorem countP_told (listed : Listed first capacity traffic own)
    (alone : ∀ {number : Nat} {event : Event}, traffic.event? number = some event →
      event.isSystem = false → number ∈ own) :
    (own.countP fun number => traffic.told? number == some true) =
      traffic.calls.countP QueueCall.hasPublished := by
  have apart : own.Nodup := listed.ordered.imp Nat.ne_of_lt
  rw [← countP_numbers QueueCall.hasPublished apart]
  · refine List.countP_congr fun number mine => ?_
    rcases List.mem_iff_getElem?.1 mine with ⟨place, found⟩
    rcases Option.bind_eq_some_iff.1 (listed.numbered found) with ⟨call, calling, event⟩
    rw [told?, calling, Option.bind_some, Option.any_some, QueueCall.hasPublished, event]
    rfl
  · intro number call calling published
    have measured := (Bool.and_eq_true_iff.1 published).1
    rcases (Option.any_eq_true _ _).1 measured with ⟨event, carried, measured⟩
    have event := Option.bind_eq_some_iff.2 ⟨call, calling, carried⟩
    exact alone event (by simpa using measured)

/-- Then those that were accepted were consumed, are pending, were thrown away when the queue was
closed, or are counted as lost. -/
theorem balanced (listed : Listed first capacity traffic own)
    (alone : ∀ {number : Nat} {event : Event}, traffic.event? number = some event →
      event.isSystem = false → number ∈ own) :
    (own.countP fun number => traffic.told? number == some true) =
      (traffic.delivered.countP fun event => !event.isSystem) +
        (traffic.queue.pending.countP fun event => !event.isSystem) +
        (traffic.discarded.countP fun event => !event.isSystem) + traffic.queue.dropped := by
  have parted := listed.reachable.booked.parted.countP_eq fun event => !event.isSystem
  rw [List.countP_append, List.countP_append] at parted
  rw [listed.countP_told alone, listed.reachable.countP_hasPublished, ← parted]
  omega

end Listed

end Traffic

/-! ## The whole stream -/

namespace Broadcast

/-- What can be said of a generator at work, after so many of its steps and any of the others. -/
structure Lawful (first : Generator) (steps : Nat) (broadcast : Broadcast) : Prop where
  /-- Each of its calls carries its handle and the number of the frame. -/
  numbered : ∀ {place number : Nat}, broadcast.own[place]? = some number →
    broadcast.traffic.event? number = some (.measured first.handle (first.sampleAt place)) ∧
      (first.sampleAt place).frame.toNat = place % UInt32.size
  limited : first.Allows broadcast.own.length
  /-- With a limit it ends, as it takes only so many steps and can always take the next one. -/
  bounded : ∀ limit ∈ first.limit?, steps ≤ 6 * limit + 2
  unblocked : broadcast.stage ≠ .ended → ∃ next : Broadcast, broadcast.OwnStep next
  /-- It ends at its limit, unless the queue was closed or the link was given up. -/
  completed : broadcast.stage = .ended → broadcast.traffic.queue.closed = false →
    broadcast.stopRequested = false → first.limit? = some broadcast.own.length
  /-- It makes no call any more when it has ended, when one was turned away, and when a call that
  gave the link up has returned. -/
  final : broadcast.stage = .ended ∨
      (∃ number ∈ broadcast.own, broadcast.traffic.told? number = some false) ∨
        (∃ caller : Nat, broadcast.partings[caller]? = some (.returned true)) →
    ∀ {more : Nat} {last : Broadcast}, broadcast.Leads more last → last.own = broadcast.own
  /-- If nobody else publishes under its handle, the frames that are consumed under it keep their
  order, and none comes twice. -/
  consumed : (∀ {number : Nat} {event : Event}, broadcast.traffic.event? number = some event →
      event.sensor = some first.handle → number ∈ broadcast.own) →
    first.Excerpt broadcast.own.length
      (broadcast.traffic.delivered.filter fun event => event.sensor = some first.handle)
  /-- If nobody else publishes measurements, each one that was accepted is accounted for. -/
  balanced : (∀ {number : Nat} {event : Event}, broadcast.traffic.event? number = some event →
      event.isSystem = false → number ∈ broadcast.own) →
    (broadcast.own.countP fun number => broadcast.traffic.told? number == some true) =
      (broadcast.traffic.delivered.countP fun event => !event.isSystem) +
        (broadcast.traffic.queue.pending.countP fun event => !event.isSystem) +
        (broadcast.traffic.discarded.countP fun event => !event.isSystem) +
        broadcast.traffic.queue.dropped

/-- Whatever a simulated sensor's link was opened with and however the steps are interleaved, its
stream is lawful.  The limit is a number of 64 bits. -/
theorem lawful_of_leads {capacity steps : Nat} {traffic : Traffic} {backend : SimulatedBackend}
    {sensor : Descriptor} {handle : Handle} {generator : Generator} {later : Broadcast}
    (used : Traffic.Reachable capacity traffic)
    (linked : backend.openLink sensor handle = .ok (.simulated generator))
    (small : ∀ limit ∈ backend.limit?, limit < UInt64.size)
    (leads : (opened traffic generator).Leads steps later) :
    generator.handle = handle ∧ generator.limit? = backend.limit? ∧
      later.Lawful generator steps := by
  rw [SimulatedBackend.openLink] at linked
  split at linked <;> cases linked
  have fresh : Generator.start handle backend.rate backend.limit? backend.yawRate =
      (Generator.start handle backend.rate backend.limit? backend.yawRate).after 0 0 := rfl
  have sound := sound_of_leads used fresh small leads
  refine ⟨rfl, rfl, ?_⟩
  exact
    { numbered := fun found => ⟨sound.listed.numbered found, Generator.frame_sampleAt _ _⟩
      limited := sound.allows
      bounded := fun _ limited => sound.steps_le limited
      unblocked := sound.exists_ownStep
      completed := sound.limit?_of_ended
      final := fun finished _ _ further => ((sound.silent finished).leads further).2
      consumed := sound.listed.consumed
      balanced := sound.listed.balanced }

/-- In a queue with room for one measurement a sensor that is limited to two publishes one that is
consumed and one that is lost; then its link is given up. -/
theorem lawful_of_two :
    ∃ (generator : Generator) (later : Broadcast),
      (⟨1000, some 2, 30⟩ : SimulatedBackend).openLink SimulatedBackend.sensor ⟨7⟩ =
          .ok (.simulated generator) ∧
        (opened (.start 1) generator).Leads 14 later ∧ later.own = [0, 1] ∧
        later.traffic.delivered = [.measured ⟨7⟩ (generator.sampleAt 0)] ∧
        later.traffic.queue.dropped = 1 ∧ later.partings = [.returned true] ∧
        later.Lawful generator 14 := by
  have linked : (⟨1000, some 2, 30⟩ : SimulatedBackend).openLink SimulatedBackend.sensor ⟨7⟩ =
      .ok (.simulated (.start ⟨7⟩ 1000 (some 2) 30)) := if_pos rfl
  have small : ∀ limit ∈ some 2, limit < UInt64.size := by
    intro limit limited
    cases limited
    decide
  have begun : (opened (.start 1) (.start ⟨7⟩ 1000 (some 2) 30)).Leads 0 _ := .here
  have stored := begun.own (.look rfl rfl) |>.own (.call rfl rfl)
    |>.own (.publish rfl rfl (.pass rfl)) |>.own (.publish rfl rfl (.store rfl))
  have again := stored.own (.goOn rfl rfl) |>.own (.wake rfl) |>.own (.look rfl rfl)
  have lost := again.own (.call rfl rfl)
    |>.own (.publish rfl rfl (.pass rfl)) |>.own (.publish rfl rfl (.lose rfl))
  have spent := lost.own (.goOn rfl rfl) |>.own (.wake rfl) |>.own (.look rfl rfl)
    |>.own (.exhaust rfl rfl)
  have waiting := spent.other (@OtherStep.begin _ (.wait .looking) rfl)
    |>.other (@OtherStep.act _ 2 _ _ _ _ _ (by decide) rfl (.letIn rfl))
  have consumed := waiting.other (@OtherStep.act _ 2 _ _ _ _ _ (by decide) rfl (.receive rfl))
  have taken := consumed.other (.store rfl) |>.other .come
    |>.other (@OtherStep.take _ 0 rfl rfl)
  have returned := taken.other (@OtherStep.stop _ 0 rfl) |>.other (@OtherStep.join _ 0 rfl rfl)
  refine ⟨_, _, linked, returned, rfl, rfl, rfl, rfl, ?_⟩
  exact (lawful_of_leads .start linked small returned).2.2

end Broadcast

end SensorStream
