import Mathlib.Data.List.Induction
import SensorStream.Proofs.QueueInterleaving

/-!
# Measurements that were published

Who publishes a measurement is told that it was accepted, whether it went into the queue or was
lost because the queue was full.  So the calls that were told so are as many as the measurements
that went in and the count of those that were lost, together.  What a call publishes and what it was
told do not change any more, whatever else happens on the queue.
-/

namespace SensorStream

namespace QueueCall

variable {queue later : EventQueue} {call next : QueueCall} {puts takes : List Event}

/-- What a call to publish was told, if it is over. -/
def told? : QueueCall → Option Bool
  | publish _ (.answered publication _) => publication.accepted?
  | _ => none

/-- The event that a call is to publish. -/
def event? : QueueCall → Option Event
  | publish event _ => some event
  | _ => none

/-- The call has published a measurement, as far as it was told. -/
def hasPublished (call : QueueCall) : Bool :=
  (call.event?.any fun event => !event.isSystem) && call.told? == some true

namespace Step

/-- A call that was told something is over. -/
theorem told?_eq_none (step : call.Step queue later next puts takes) : call.told? = none := by
  cases step <;> rfl

theorem event?_eq (step : call.Step queue later next puts takes) : next.event? = call.event? := by
  cases step <;> rfl

theorem hasPublished_eq_false (step : call.Step queue later next puts takes) :
    call.hasPublished = false := by
  rw [hasPublished, step.told?_eq_none, Bool.and_eq_false_iff]
  exact .inr rfl

/-- A measurement that is accepted goes in or is lost. -/
theorem hasPublished_next (step : call.Step queue later next puts takes) :
    next.hasPublished.toNat = (puts.countP fun event => !event.isSystem) + next.isLost.toNat := by
  cases step with
  | @store event =>
      rw [hasPublished, List.countP_singleton]
      cases measured : event.isSystem <;> simp [event?, told?, isLost, measured,
        EventQueue.Publication.accepted?]
  | lose put =>
      have measured := (EventQueue.of_put_lost put).1
      simp [hasPublished, event?, told?, isLost, measured, EventQueue.Publication.accepted?]
  | _ => simp [hasPublished, event?, told?, isLost, EventQueue.Publication.accepted?]

end Step

end QueueCall

namespace Traffic

variable {capacity : Nat} {traffic : Traffic} {number caller : Nat} {call next : QueueCall}
variable {queue : EventQueue} {puts takes : List Event} {answer : Bool} {event : Event}

/-- What the call with this number was told. -/
def told? (traffic : Traffic) (number : Nat) : Option Bool :=
  traffic.calls[number]?.bind QueueCall.told?

/-- The event that the call with this number is to publish. -/
def event? (traffic : Traffic) (number : Nat) : Option Event :=
  traffic.calls[number]?.bind QueueCall.event?

/-! ## What does not change any more -/

theorem getElem?_begin (within : number < traffic.calls.length) :
    (traffic.begin call).calls[number]? = traffic.calls[number]? :=
  List.getElem?_append_left within

theorem getElem?_act_other (different : caller ≠ number) :
    (traffic.act caller queue next puts takes).calls[number]? = traffic.calls[number]? :=
  List.getElem?_set_ne different

theorem getElem?_act_self (calling : traffic.calls[number]? = some call) :
    (traffic.act number queue next puts takes).calls[number]? = some next :=
  List.getElem?_set_self (List.getElem?_eq_some_iff.1 calling).1

theorem event?_begin (published : traffic.event? number = some event) :
    (traffic.begin call).event? number = some event := by
  rcases Option.bind_eq_some_iff.1 published with ⟨earlier, calling, _⟩
  rwa [event?, getElem?_begin (List.getElem?_eq_some_iff.1 calling).1]

theorem told?_begin (told : traffic.told? number = some answer) :
    (traffic.begin call).told? number = some answer := by
  rcases Option.bind_eq_some_iff.1 told with ⟨earlier, calling, _⟩
  rwa [told?, getElem?_begin (List.getElem?_eq_some_iff.1 calling).1]

theorem event?_act (calling : traffic.calls[caller]? = some call)
    (step : call.Step traffic.queue queue next puts takes) :
    (traffic.act caller queue next puts takes).event? number = traffic.event? number := by
  by_cases same : caller = number
  · subst same
    rw [event?, event?, getElem?_act_self calling, calling]
    exact step.event?_eq
  · rw [event?, event?, getElem?_act_other same]

theorem told?_act (told : traffic.told? number = some answer)
    (calling : traffic.calls[caller]? = some call)
    (step : call.Step traffic.queue queue next puts takes) :
    (traffic.act caller queue next puts takes).told? number = some answer := by
  have different : caller ≠ number := by
    rintro rfl
    rw [told?, calling, Option.bind_some, step.told?_eq_none] at told
    cases told
  rwa [told?, getElem?_act_other different]

/-! ## Counting -/

/-- As many calls have published a measurement as measurements went in or were lost. -/
theorem Reachable.countP_hasPublished (reachable : Reachable capacity traffic) :
    traffic.calls.countP QueueCall.hasPublished =
      ((traffic.entered.map Prod.snd).countP fun event => !event.isSystem) +
        traffic.queue.dropped := by
  induction reachable with
  | start => rfl
  | @begin traffic _ call fresh ih =>
      have unpublished : call.hasPublished = false := by
        cases call with
        | publish event stage =>
            cases stage with
            | looking => simp [QueueCall.hasPublished, QueueCall.told?]
            | _ => cases fresh
        | _ => rfl
      rw [Traffic.begin, List.countP_append, List.countP_singleton, unpublished]
      exact ih
  | @act traffic _ caller call next queue puts takes calling step ih =>
      rcases List.getElem?_eq_some_iff.1 calling with ⟨within, found⟩
      have counted := step.hasPublished_next
      have one : (if next.hasPublished = true then 1 else 0) = next.hasPublished.toNat := by
        cases next.hasPublished <;> rfl
      simp only [Traffic.act, List.countP_set within, found, step.hasPublished_eq_false, one,
        List.map_append, List.map_map, Function.comp_def, List.map_id', List.countP_append]
      rw [step.effect.dropped_eq]
      simp only [Bool.false_eq_true, if_false]
      omega

/-- The entries of a list, counted by their places. -/
theorem countP_range {Entry : Type} (entries : List Entry) (such : Entry → Bool) :
    (List.range entries.length).countP (fun place => entries[place]?.any such) =
      entries.countP such := by
  induction entries using List.reverseRecOn with
  | nil => rfl
  | append_singleton entries last ih =>
      rw [List.length_append, List.length_singleton, List.range_succ, List.countP_append,
        List.countP_append, List.countP_singleton, List.countP_singleton,
        List.getElem?_concat_length, Option.any_some, ← ih]
      congr 1
      refine List.countP_congr fun place within => ?_
      rw [List.getElem?_append_left (List.mem_range.1 within)]

/-- Calls of one kind are as many as their numbers in a list that has all of these, and none
twice. -/
theorem countP_numbers {numbers : List Nat} (such : QueueCall → Bool) (apart : numbers.Nodup)
    (all : ∀ (number : Nat) (call : QueueCall), traffic.calls[number]? = some call →
      such call = true → number ∈ numbers) :
    numbers.countP (fun number => traffic.calls[number]?.any such) = traffic.calls.countP such := by
  rw [← countP_range traffic.calls, List.countP_eq_length_filter, List.countP_eq_length_filter]
  refine List.Perm.length_eq ((List.perm_ext_iff_of_nodup (apart.filter _)
    (List.nodup_range.filter _)).2 fun number => ?_)
  simp only [List.mem_filter, List.mem_range, Option.any_eq_true]
  constructor
  · rintro ⟨_, call, calling, kind⟩
    exact ⟨(List.getElem?_eq_some_iff.1 calling).1, call, calling, kind⟩
  · rintro ⟨_, call, calling, kind⟩
    exact ⟨all number call calling kind, call, calling, kind⟩

end Traffic

end SensorStream
