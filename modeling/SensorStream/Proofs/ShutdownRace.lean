import SensorStream.Device.Rehearsed
import SensorStream.Proofs.Holdings
import SensorStream.Proofs.HubCalls

/-!
# Opening links while a hub is shut down

A call that opens a link looks at the flag first and puts the link into the store last, and
nothing keeps the hub from being shut down in between.  Then the link enters a store that was
emptied before, and nobody gives it up.

What can be said is this.  Only calls that found the hub active before it was shut down can do
so, and what is held after the store was emptied are exactly the links that entered it
afterwards and were not given up.
-/

namespace SensorStream

/-! ## What was done, in the order in which it was done -/

namespace Deed

/-- The link under the handle is not in the store afterwards. -/
def Clears (handle : Handle) : Deed → Prop
  | removed other => other = handle
  | emptied => True
  | _ => False

/-- A link has gone into the store or out of it. -/
def isTransfer : Deed → Bool
  | stored _ => true
  | removed _ => true
  | _ => false

/-- A stage of the shutting down is over. -/
def isMilestone : Deed → Bool
  | marked => true
  | emptied => true
  | _ => false

theorem isMilestone_of_isTransfer {deed : Deed} (transfers : deed.isTransfer = true) :
    deed.isMilestone = false := by
  cases deed <;> first | rfl | cases transfers

end Deed

/-- The call with this number has put a link under the handle into the store, and nobody has
taken it out since. -/
def Lingers (caller : Nat) (handle : Handle) (deeds : List (Nat × Deed)) : Prop :=
  Since (· = (caller, .stored handle)) (fun entry => ¬entry.2.Clears handle) deeds

theorem lingers_concat {caller author : Nat} {handle : Handle} {deeds : List (Nat × Deed)}
    {deed : Deed} :
    Lingers caller handle (deeds ++ [(author, deed)]) ↔
      (author, deed) = (caller, .stored handle) ∨
        Lingers caller handle deeds ∧ ¬deed.Clears handle :=
  since_concat

theorem exists_lingers_concat {author : Nat} {handle : Handle} {deeds : List (Nat × Deed)}
    {deed : Deed} :
    (∃ caller : Nat, Lingers caller handle (deeds ++ [(author, deed)])) ↔
      deed = .stored handle ∨
        (∃ caller : Nat, Lingers caller handle deeds) ∧ ¬deed.Clears handle := by
  simp only [lingers_concat, exists_or, exists_and_right, Prod.mk.injEq]
  simp

/-- How the history of a hub is divided by its shutting down. -/
inductive Chronicle (deeds : List (Nat × Deed)) : Prop where
  | active (early : ∀ entry ∈ deeds, entry.2.isMilestone = false)
  | marked {shutter : Nat} {before between : List (Nat × Deed)}
      (split : deeds = before ++ (shutter, .marked) :: between)
      (early : ∀ entry ∈ before, entry.2.isMilestone = false)
      (late : ∀ entry ∈ between, entry.2.isTransfer = true)
  | emptied {shutter : Nat} {before between after : List (Nat × Deed)}
      (split : deeds = before ++ (shutter, .marked) :: between ++ (shutter, .emptied) :: after)
      (early : ∀ entry ∈ before, entry.2.isMilestone = false)
      (late : ∀ entry ∈ between, entry.2.isTransfer = true)
      (after : ∀ entry ∈ after, entry.2.isTransfer = true)

namespace Chronicle

variable {deeds : List (Nat × Deed)} {author : Nat}

/-- Links may go in and out at any time. -/
theorem transfer (chronicle : Chronicle deeds) {deed : Deed} (transfers : deed.isTransfer = true) :
    Chronicle (deeds ++ [(author, deed)]) := by
  have added : ∀ {entries : List (Nat × Deed)}, (∀ entry ∈ entries, entry.2.isTransfer = true) →
      ∀ entry ∈ entries ++ [(author, deed)], entry.2.isTransfer = true := by
    intro entries all entry member
    rcases List.mem_append.1 member with earlier | last
    · exact all entry earlier
    · rw [List.mem_singleton.1 last]
      exact transfers
  cases chronicle with
  | active early =>
      refine .active fun entry member => ?_
      rcases List.mem_append.1 member with earlier | last
      · exact early entry earlier
      · rw [List.mem_singleton.1 last]
        exact Deed.isMilestone_of_isTransfer transfers
  | @marked shutter before between split early late =>
      have longer : deeds ++ [(author, deed)] =
          before ++ (shutter, .marked) :: (between ++ [(author, deed)]) := by
        rw [split, List.append_assoc, List.cons_append]
      exact .marked longer early (added late)
  | @emptied shutter before between rest split early late after =>
      have longer : deeds ++ [(author, deed)] =
          before ++ (shutter, .marked) :: between ++
            (shutter, .emptied) :: (rest ++ [(author, deed)]) := by
        rw [split, List.append_assoc, List.cons_append]
      exact .emptied longer early late (added after)

/-- After the hub was shut down links only go in and out until its store is emptied. -/
theorem mem_of_marked {shutter : Nat} {before between : List (Nat × Deed)} {entry : Nat × Deed}
    (member : entry ∈ before ++ (shutter, .marked) :: between)
    (late : ∀ entry ∈ between, entry.2.isTransfer = true) (apart : entry.2.isTransfer = false) :
    entry ∈ before ∨ entry = (shutter, .marked) := by
  rcases List.mem_append.1 member with earlier | rest
  · exact .inl earlier
  · rcases List.mem_cons.1 rest with here | later
    · exact .inr here
    · exact Bool.noConfusion ((late entry later).symm.trans apart)

/-- And links only go in and out ever after. -/
theorem mem_of_emptied {shutter : Nat} {before between after : List (Nat × Deed)}
    {entry : Nat × Deed}
    (member : entry ∈ before ++ (shutter, .marked) :: between ++ (shutter, .emptied) :: after)
    (late : ∀ entry ∈ between, entry.2.isTransfer = true)
    (last : ∀ entry ∈ after, entry.2.isTransfer = true) (apart : entry.2.isTransfer = false) :
    entry ∈ before ∨ entry = (shutter, .marked) ∨ entry = (shutter, .emptied) := by
  rcases List.mem_append.1 member with front | rest
  · exact (mem_of_marked front late apart).imp_right .inl
  · rcases List.mem_cons.1 rest with here | later
    · exact .inr (.inr here)
    · exact Bool.noConfusion ((last entry later).symm.trans apart)

/-- As long as nobody has shut the hub down, callers may be let in and one may shut it down. -/
theorem milestones_of_unmarked (chronicle : Chronicle deeds)
    (active : ∀ caller : Nat, (caller, .marked) ∉ deeds) :
    ∀ entry ∈ deeds, entry.2.isMilestone = false := by
  cases chronicle with
  | active early => exact early
  | @marked shutter before between split => exact absurd (by simp [split]) (active shutter)
  | @emptied shutter before between rest split => exact absurd (by simp [split]) (active shutter)

/-- The store is emptied once, by the call that has shut the hub down. -/
theorem empty (chronicle : Chronicle deeds) (shut : (author, .marked) ∈ deeds)
    (full : (author, .emptied) ∉ deeds) : Chronicle (deeds ++ [(author, .emptied)]) := by
  cases chronicle with
  | active early => cases early _ shut
  | @marked shutter before between split early late =>
      subst split
      rcases mem_of_marked shut late rfl with earlier | same
      · cases early _ earlier
      · cases same
        exact .emptied rfl early late nofun
  | @emptied shutter before between rest split early late last =>
      subst split
      rcases mem_of_emptied shut late last rfl with earlier | same | same
      · cases early _ earlier
      · cases same
        exact absurd (by simp) full
      · cases same

end Chronicle

/-! ## The effect of a step -/

namespace Hub

variable {System : Type}

theorem links_openAt [Backend System] {hub later : Hub System} {index : Nat}
    {sensor : Descriptor} {handle : Handle} {result : Except AcquireError Link}
    (opened : hub.openAt index sensor handle = (result, later)) :
    later.links = hub.links ∧ later.isShutDown = hub.isShutDown := by
  rw [openAt] at opened
  split at opened <;> cases opened <;> exact ⟨rfl, rfl⟩

theorem holds_of_links {hub later : Hub System} (same : later.links = hub.links)
    (handle : Handle) : later.holds handle = hub.holds handle := by
  rw [holds, holds, same]

@[simp] theorem holds_hold (hub : Hub System) (handle other : Handle) (link : Link) :
    (hub.hold other link).holds handle = (hub.holds handle || decide (other = handle)) := by
  simp [holds, hold]

@[simp] theorem holds_letGo (hub : Hub System) (handle other : Handle) :
    (hub.letGo other).holds handle = (hub.holds handle && decide (other ≠ handle)) := by
  rw [Bool.eq_iff_iff, Bool.and_eq_true, decide_eq_true_iff, holds_iff, holds_iff]
  simp only [letGo, List.mem_map, List.mem_filter, decide_eq_true_iff]
  constructor
  · rintro ⟨entry, ⟨member, differs⟩, rfl⟩
    exact ⟨⟨entry, member, rfl⟩, differs.symm⟩
  · rintro ⟨⟨entry, member, rfl⟩, differs⟩
    exact ⟨entry, ⟨member, differs.symm⟩, rfl⟩

@[simp] theorem holds_drawHandle (hub : Hub System) (handle : Handle) :
    hub.drawHandle.2.holds handle = hub.holds handle := rfl

@[simp] theorem holds_markShutDown (hub : Hub System) (handle : Handle) :
    hub.markShutDown.holds handle = hub.holds handle := rfl

@[simp] theorem holds_closeQueue (hub : Hub System) (handle : Handle) :
    hub.closeQueue.holds handle = hub.holds handle := rfl

@[simp] theorem holds_letAllGo (hub : Hub System) (handle : Handle) :
    hub.letAllGo.holds handle = false := rfl

end Hub

namespace HubCall.Step

variable {System : Type} [Backend System] {hub later : Hub System} {call next : HubCall}
variable {deed : Option Deed}

/-- What a step puts into the store and takes out of it. -/
theorem holds_iff (step : Step hub call later next deed) (handle : Handle) :
    later.holds handle = true ↔
      deed = some (.stored handle) ∨
        hub.holds handle = true ∧ ∀ done : Deed, deed = some done → ¬done.Clears handle := by
  cases step with
  | store => simp [Deed.Clears, or_comm]
  | @remove other holds => simp [Deed.Clears, eq_comm (a := other)]
  | fail failed => simp [Hub.holds_of_links (Hub.links_openAt failed).1]
  | «open» opened => simp [Hub.holds_of_links (Hub.links_openAt opened).1]
  | _ => simp [Deed.Clears]

theorem isShutDown_iff (step : Step hub call later next deed) :
    later.isShutDown = true ↔ hub.isShutDown = true ∨ deed = some .marked := by
  cases step with
  | fail failed => simp [(Hub.links_openAt failed).2]
  | «open» opened => simp [(Hub.links_openAt opened).2]
  | mark => simp [Hub.markShutDown]
  | _ => simp [Hub.drawHandle, Hub.hold, Hub.letGo, Hub.closeQueue, Hub.letAllGo]

theorem hasMarked_iff (step : Step hub call later next deed) :
    next.hasMarked = true ↔ call.hasMarked = true ∨ deed = some .marked := by
  cases step <;> simp [hasMarked]

theorem hasEmptied_iff (step : Step hub call later next deed) :
    next.hasEmptied = true ↔ call.hasEmptied = true ∨ deed = some .emptied := by
  cases step <;> simp [hasEmptied]

theorem isOpening_of_next (step : Step hub call later next deed) (opening : next.isOpening = true) :
    call.isOpening = true ∨ deed = some .admitted := by
  cases step <;> first | exact .inl rfl | exact .inr rfl | cases opening

theorem isOpening_of_stored {handle : Handle}
    (step : Step hub call later next (some (.stored handle))) : call.isOpening = true := by
  cases step
  rfl

/-- A step lets a caller in or shuts the hub down only where the hub is active. -/
theorem active_of_admitted (step : Step hub call later next deed)
    (lets : deed = some .admitted ∨ deed = some .marked) : hub.isShutDown = false := by
  cases step with
  | letIn active => exact active
  | mark active => exact active
  | _ => simp at lets

theorem emptying_of_emptied (step : Step hub call later next (some .emptied)) :
    call.hasMarked = true ∧ call.hasEmptied = false := by
  cases step
  exact ⟨rfl, rfl⟩

end HubCall.Step

/-! ## Calls by many callers -/

/-- A hub with the calls on it, each under the number of its caller, and what these have done
so far. -/
structure Desk (System : Type) where
  hub : Hub System
  calls : List HubCall
  deeds : List (Nat × Deed)

namespace Desk

variable {System : Type}

/-- Nobody has called yet. -/
def start (hub : Hub System) : Desk System :=
  ⟨hub, [], []⟩

/-- Another call begins. -/
def begin (desk : Desk System) (call : HubCall) : Desk System :=
  { desk with calls := desk.calls ++ [call] }

/-- A call has taken a step. -/
def act (desk : Desk System) (caller : Nat) (hub : Hub System) (call : HubCall)
    (deed : Option Deed) : Desk System where
  hub := hub
  calls := desk.calls.set caller call
  deeds := desk.deeds ++ deed.toList.map fun done => (caller, done)

/-- The hub has done work of its own. -/
def upkeep (desk : Desk System) (hub : Hub System) : Desk System :=
  { desk with hub := hub }

/-- The call with this number has come so far. -/
def Has (desk : Desk System) (stage : HubCall → Bool) (caller : Nat) : Prop :=
  desk.calls[caller]?.any stage = true

section Calls

variable {desk : Desk System} {caller other : Nat} {call next : HubCall}
variable {stage : HubCall → Bool} {hub : Hub System} {deed : Option Deed}

theorem has_of_getElem? (calling : desk.calls[caller]? = some call) :
    desk.Has stage caller ↔ stage call = true := by
  rw [Has, calling]
  rfl

theorem has_begin (new : stage call = false) :
    (desk.begin call).Has stage caller ↔ desk.Has stage caller := by
  rw [Has, Has, begin, List.getElem?_append]
  split
  · rfl
  · rename_i beyond
    rw [List.getElem?_eq_none (Nat.not_lt.1 beyond), List.getElem?_singleton]
    split <;> simp [new]

theorem has_act_self (calling : desk.calls[caller]? = some call) :
    (desk.act caller hub next deed).Has stage caller ↔ stage next = true := by
  rw [Has, act, List.getElem?_set_self (List.getElem?_eq_some_iff.1 calling).1]
  rfl

theorem has_act_other (different : caller ≠ other) :
    (desk.act caller hub next deed).Has stage other ↔ desk.Has stage other := by
  rw [Has, Has, act, List.getElem?_set_ne different]

theorem deeds_act_none : (desk.act caller hub next none).deeds = desk.deeds :=
  List.append_nil _

theorem deeds_act_some {done : Deed} :
    (desk.act caller hub next (some done)).deeds = desk.deeds ++ [(caller, done)] := rfl

theorem mem_act_deeds {done : Deed} :
    (other, done) ∈ (desk.act caller hub next deed).deeds ↔
      (other, done) ∈ desk.deeds ∨ caller = other ∧ deed = some done := by
  cases deed <;> simp [act, eq_comm]

/-- Where a step shows in the history whether it has brought a call to a stage, the history
goes on to tell which calls have come to it. -/
theorem mem_act_iff_has {done : Deed} (calling : desk.calls[caller]? = some call)
    (told : ∀ author : Nat, (author, done) ∈ desk.deeds ↔ desk.Has stage author)
    (effect : stage next = true ↔ stage call = true ∨ deed = some done) (author : Nat) :
    (author, done) ∈ (desk.act caller hub next deed).deeds ↔
      (desk.act caller hub next deed).Has stage author := by
  rw [mem_act_deeds, told]
  by_cases same : caller = author
  · subst same
    rw [has_act_self calling, has_of_getElem? calling, effect]
    simp
  · rw [has_act_other same]
    simp [same]

end Calls

section Leads

variable [Backend System]

/-- What a desk may come to, when the steps of any calls come in any order. -/
inductive Leads (first : Desk System) : Desk System → Prop where
  | here : Leads first first
  | begin {desk : Desk System} (earlier : Leads first desk) {call : HubCall}
      (fresh : call.isFresh = true) : Leads first (desk.begin call)
  | act {desk : Desk System} (earlier : Leads first desk) {caller : Nat} {call next : HubCall}
      {hub : Hub System} {deed : Option Deed} (calling : desk.calls[caller]? = some call)
      (step : call.Step desk.hub hub next deed) : Leads first (desk.act caller hub next deed)
  | upkeep {desk : Desk System} (earlier : Leads first desk) {hub : Hub System}
      (kept : desk.hub.Kept hub) : Leads first (desk.upkeep hub)

end Leads

/-! ## The books of a desk -/

/-- What holds at every moment. -/
structure Booked (desk : Desk System) : Prop where
  held : ∀ handle : Handle, desk.hub.holds handle = true ↔
    ∃ caller : Nat, Lingers caller handle desk.deeds
  shutDown : desk.hub.isShutDown = true ↔ ∃ caller : Nat, (caller, .marked) ∈ desk.deeds
  marked : ∀ caller : Nat, (caller, .marked) ∈ desk.deeds ↔ desk.Has HubCall.hasMarked caller
  emptied : ∀ caller : Nat, (caller, .emptied) ∈ desk.deeds ↔ desk.Has HubCall.hasEmptied caller
  admitted : ∀ caller : Nat, desk.Has HubCall.isOpening caller → (caller, .admitted) ∈ desk.deeds
  stored : ∀ (caller : Nat) (handle : Handle), (caller, .stored handle) ∈ desk.deeds →
    (caller, .admitted) ∈ desk.deeds
  chronicle : Chronicle desk.deeds

namespace Booked

variable {desk : Desk System}

theorem begin (booked : desk.Booked) {call : HubCall} (fresh : call.isFresh = true) :
    (desk.begin call).Booked := by
  rcases HubCall.of_isFresh fresh with ⟨marked, emptied, opening⟩
  constructor
  · exact booked.held
  · exact booked.shutDown
  · exact fun caller => (booked.marked caller).trans (has_begin marked).symm
  · exact fun caller => (booked.emptied caller).trans (has_begin emptied).symm
  · exact fun caller opens => booked.admitted caller ((has_begin opening).1 opens)
  · exact booked.stored
  · exact booked.chronicle

theorem upkeep (booked : desk.Booked) {hub : Hub System} (kept : desk.hub.Kept hub) :
    (desk.upkeep hub).Booked := by
  refine ⟨?_, ?_, booked.marked, booked.emptied, booked.admitted, booked.stored,
    booked.chronicle⟩
  · intro handle
    rw [Desk.upkeep, kept.holds_eq]
    exact booked.held handle
  · rw [Desk.upkeep, kept.isShutDown]
    exact booked.shutDown

/-- While the hub is active nobody has shut it down. -/
theorem early_of_active (booked : desk.Booked) (active : desk.hub.isShutDown = false) :
    ∀ entry ∈ desk.deeds, entry.2.isMilestone = false := by
  apply booked.chronicle.milestones_of_unmarked
  intro caller marked
  exact Bool.false_ne_true (active.symm.trans (booked.shutDown.2 ⟨caller, marked⟩))

theorem act [Backend System] (booked : desk.Booked) {caller : Nat} {call next : HubCall}
    {hub : Hub System} {deed : Option Deed} (calling : desk.calls[caller]? = some call)
    (step : call.Step desk.hub hub next deed) : (desk.act caller hub next deed).Booked where
  held := by
    intro handle
    change hub.holds handle = true ↔ _
    rw [step.holds_iff, booked.held]
    cases deed with
    | none =>
        rw [deeds_act_none]
        simp
    | some done =>
        rw [deeds_act_some, exists_lingers_concat]
        simp only [Option.some.injEq, forall_eq']
  shutDown := by
    change hub.isShutDown = true ↔ _
    rw [step.isShutDown_iff, booked.shutDown]
    simp [mem_act_deeds, exists_or]
  marked := mem_act_iff_has calling booked.marked step.hasMarked_iff
  emptied := mem_act_iff_has calling booked.emptied step.hasEmptied_iff
  admitted := by
    intro author opening
    rw [mem_act_deeds]
    by_cases same : caller = author
    · subst same
      rw [has_act_self calling] at opening
      rcases step.isOpening_of_next opening with before | lets
      · exact .inl (booked.admitted caller ((has_of_getElem? calling).2 before))
      · exact .inr ⟨rfl, lets⟩
    · rw [has_act_other same] at opening
      exact .inl (booked.admitted author opening)
  stored := by
    intro author handle put
    rcases mem_act_deeds.1 put with before | ⟨rfl, rfl⟩
    · exact mem_act_deeds.2 (.inl (booked.stored author handle before))
    · have opening := (has_of_getElem? calling).2 step.isOpening_of_stored
      exact mem_act_deeds.2 (.inl (booked.admitted caller opening))
  chronicle := by
    cases deed with
    | none =>
        rw [deeds_act_none]
        exact booked.chronicle
    | some done =>
        cases done with
        | stored handle => exact booked.chronicle.transfer rfl
        | removed handle => exact booked.chronicle.transfer rfl
        | admitted =>
            have early := booked.early_of_active (step.active_of_admitted (.inl rfl))
            refine .active fun entry member => ?_
            rcases List.mem_append.1 member with before | here
            · exact early entry before
            · rw [List.mem_singleton.1 here]
              rfl
        | marked =>
            have early := booked.early_of_active (step.active_of_admitted (.inr rfl))
            exact .marked rfl early nofun
        | emptied =>
            rcases step.emptying_of_emptied with ⟨marked, full⟩
            apply booked.chronicle.empty
            · exact (booked.marked caller).2 ((has_of_getElem? calling).2 marked)
            · rw [booked.emptied, has_of_getElem? calling, full]
              exact Bool.false_ne_true

end Booked

theorem Leads.booked [Backend System] {first desk : Desk System} (leads : Leads first desk)
    (begun : first.Booked) : desk.Booked := by
  induction leads with
  | here => exact begun
  | begin _ fresh ih => exact ih.begin fresh
  | act _ calling step ih => exact ih.act calling step
  | upkeep _ kept ih => exact ih.upkeep kept

theorem booked_start {systems : List System} {capacity : Nat} {hub : Hub System}
    (created : Hub.create systems capacity = .ok hub) : (start hub).Booked := by
  cases Hub.eq_fresh_of_create created
  refine ⟨?_, ?_, ?_, ?_, ?_, nofun, .active nofun⟩
  · intro handle
    constructor
    · nofun
    · rintro ⟨caller, earlier, later, entry, split, _⟩
      simp [start] at split
  · constructor
    · nofun
    · rintro ⟨caller, marked⟩
      cases marked
  · exact fun caller => ⟨nofun, nofun⟩
  · exact fun caller => ⟨nofun, nofun⟩
  · exact fun caller => nofun

/-! ## What is held of a hub that was shut down -/

/-- The history of a hub that was shut down, and what it says of the links. -/
structure Parted (desk : Desk System) (shutter : Nat) (before between after : List (Nat × Deed)) :
    Prop where
  split : desk.deeds = before ++ (shutter, .marked) :: between ++ (shutter, .emptied) :: after
  /-- The hub was shut down once, and its store was emptied once. -/
  once : ∀ entry ∈ before ++ between ++ after, entry.2.isMilestone = false
  /-- All callers that were let in were let in before the hub was shut down. -/
  early : ∀ caller : Nat, (caller, .admitted) ∈ desk.deeds → (caller, .admitted) ∈ before
  /-- What is held are the links that went into the store after it was emptied and that
  nobody has taken out since. -/
  held : ∀ handle : Handle, desk.hub.holds handle = true ↔
    ∃ caller : Nat, Lingers caller handle after
  /-- They were put there by callers that were let in before the hub was shut down. -/
  late : ∀ (caller : Nat) (handle : Handle), (caller, .stored handle) ∈ after →
    (caller, .admitted) ∈ before
  empty : desk.hub.connected = 0 ↔
    ∀ (caller : Nat) (handle : Handle), ¬Lingers caller handle after

/-- Nothing is held where no handle is. -/
theorem connected_eq_zero_iff {desk : Desk System} :
    desk.hub.connected = 0 ↔ ∀ handle : Handle, ¬desk.hub.holds handle = true := by
  rw [Hub.connected, List.length_eq_zero_iff]
  constructor
  · intro empty handle holds
    rw [Hub.holds_iff, empty] at holds
    cases holds
  · intro nothing
    rw [List.eq_nil_iff_forall_not_mem]
    intro entry member
    exact nothing entry.1 (Hub.holds_iff.2 (List.mem_map_of_mem member))

/-- The history tells what is held once the store was emptied. -/
theorem Booked.parted {desk : Desk System} {shutter : Nat}
    {before between after : List (Nat × Deed)} (booked : desk.Booked)
    (split : desk.deeds = before ++ (shutter, .marked) :: between ++ (shutter, .emptied) :: after)
    (early : ∀ entry ∈ before, entry.2.isMilestone = false)
    (late : ∀ entry ∈ between, entry.2.isTransfer = true)
    (last : ∀ entry ∈ after, entry.2.isTransfer = true) :
    desk.Parted shutter before between after := by
  have lingers : ∀ (caller : Nat) (handle : Handle),
      Lingers caller handle desk.deeds ↔ Lingers caller handle after := by
    intro caller handle
    rw [split]
    exact since_append_cons nofun (not_not_intro trivial)
  have admitted : ∀ caller : Nat, (caller, .admitted) ∈ desk.deeds →
      (caller, .admitted) ∈ before := by
    intro caller member
    rw [split] at member
    rcases Chronicle.mem_of_emptied member late last rfl with earlier | same | same
    · exact earlier
    · cases same
    · cases same
  have held : ∀ handle : Handle, desk.hub.holds handle = true ↔
      ∃ caller : Nat, Lingers caller handle after := by
    intro handle
    rw [booked.held]
    simp only [lingers]
  refine ⟨split, ?_, admitted, held, ?_, ?_⟩
  · intro entry member
    rcases List.mem_append.1 member with front | later
    · rcases List.mem_append.1 front with earlier | middle
      · exact early entry earlier
      · exact Deed.isMilestone_of_isTransfer (late entry middle)
    · exact Deed.isMilestone_of_isTransfer (last entry later)
  · intro caller handle member
    apply admitted caller
    apply booked.stored caller handle
    rw [split]
    exact List.mem_append_right _ (List.mem_cons_of_mem _ member)
  · rw [connected_eq_zero_iff]
    simp only [held, not_exists]
    exact forall_comm

/-- Whatever calls are made on a hub, and in whatever order their steps come: what is held
once a call has returned that has emptied the store are the links of callers that looked at
the flag before it was set and came to the store after it was emptied. -/
theorem Leads.parted_of_returned [Backend System] {systems : List System} {capacity : Nat}
    {hub : Hub System} {desk : Desk System} {shutter : Nat}
    (created : Hub.create systems capacity = .ok hub) (leads : (start hub).Leads desk)
    (returned : desk.calls[shutter]? = some (.shutdown (.returned true))) :
    ∃ before between after : List (Nat × Deed), desk.Parted shutter before between after := by
  have booked := leads.booked (booked_start created)
  have emptied := (booked.emptied shutter).2 ((has_of_getElem? returned).2 rfl)
  -- That the store was emptied rules out the histories that have not come to it.
  cases booked.chronicle with
  | active early => cases early _ emptied
  | marked split early late =>
      rw [split] at emptied
      rcases Chronicle.mem_of_marked emptied late rfl with earlier | same
      · cases early _ earlier
      · cases same
  | @emptied other before between after split early late last =>
      have same : shutter = other := by
        rw [split] at emptied
        rcases Chronicle.mem_of_emptied emptied late last rfl with earlier | same | same
        · cases early _ earlier
        · cases same
        · exact congrArg Prod.fst same
      subst same
      exact ⟨before, between, after, booked.parted split early late last⟩

/-- A sensor that is simulated. -/
def sampled : Descriptor :=
  ⟨"a", "", .simulated, ""⟩

/-- One back end, which opens every link. -/
def willing : List RehearsedBackend :=
  [⟨.simulated, .ok [], [], true⟩]

/-- A caller is let in, another one shuts the hub down and returns, and then the first one
draws its handle, opens its link and puts it into the store. -/
theorem exists_late_link :
    ∃ (hub : Hub RehearsedBackend) (desk : Desk RehearsedBackend),
      Hub.create willing 4 = .ok hub ∧ (start hub).Leads desk ∧
        desk.calls = [.acquire sampled (.answered (.ok ⟨1⟩)), .shutdown (.returned true)] ∧
        desk.hub.connected = 1 := by
  have begun : (start (.fresh willing 4)).Leads (((start (.fresh willing 4)).begin
      (.acquire sampled .looking)).begin (.shutdown .marking)) := .begin (.begin .here rfl) rfl
  have admitted := @Leads.act _ _ _ _ begun 0 _ _ _ _ rfl (.letIn rfl)
  have marked := @Leads.act _ _ _ _ admitted 1 _ _ _ _ rfl (.mark rfl)
  have closed := @Leads.act _ _ _ _ marked 1 _ _ _ _ rfl .close
  have emptied := @Leads.act _ _ _ _ closed 1 _ _ _ _ rfl .empty
  have returned := @Leads.act _ _ _ _ emptied 1 _ _ _ _ rfl (.join rfl)
  -- The first caller has looked at the flag long ago.
  have drawn := @Leads.act _ _ _ _ returned 0 _ _ _ _ rfl (.draw rfl)
  have opened := @Leads.act _ _ _ _ drawn 0 _ _ _ _ rfl (.open rfl)
  have stored := @Leads.act _ _ _ _ opened 0 _ _ _ _ rfl .store
  exact ⟨.fresh willing 4, _, rfl, stored, rfl, rfl⟩

/-- The calls need not leave the hub without a link when they are over. -/
theorem not_connected_eq_zero_of_returned :
    ¬∀ (systems : List RehearsedBackend) (capacity : Nat) (hub : Hub RehearsedBackend)
        (desk : Desk RehearsedBackend) (shutter : Nat),
        Hub.create systems capacity = .ok hub → (start hub).Leads desk →
        desk.calls[shutter]? = some (.shutdown (.returned true)) →
        (∀ call ∈ desk.calls, call.isAcquiring = false) → desk.hub.connected = 0 := by
  intro released
  rcases exists_late_link with ⟨hub, desk, created, leads, calls, connected⟩
  have empty := released _ _ hub desk 1 created leads (by rw [calls]; rfl) (by rw [calls]; decide)
  cases connected.symm.trans empty

theorem parted_of_late_link :
    ∃ (hub : Hub RehearsedBackend) (desk : Desk RehearsedBackend)
      (before between after : List (Nat × Deed)),
      (start hub).Leads desk ∧ desk.hub.connected = 1 ∧ desk.Parted 1 before between after := by
  rcases exists_late_link with ⟨hub, desk, created, leads, calls, connected⟩
  have returned : desk.calls[1]? = some (.shutdown (.returned true)) := by
    rw [calls]
    rfl
  rcases leads.parted_of_returned created returned with ⟨before, between, after, parted⟩
  exact ⟨hub, desk, before, between, after, leads, connected, parted⟩

/-- Where nobody is about to open a link, a hub that is shut down and holds no link never holds
one again. -/
theorem Leads.connected_eq_zero [Backend System] {first desk : Desk System}
    (leads : first.Leads desk) (ended : first.hub.isShutDown = true)
    (idle : ∀ caller : Nat, ¬first.Has HubCall.isOpening caller)
    (empty : first.hub.connected = 0) : desk.hub.connected = 0 := by
  have stays : desk.hub.isShutDown = true ∧ (∀ caller : Nat, ¬desk.Has HubCall.isOpening caller) ∧
      ∀ handle : Handle, ¬desk.hub.holds handle = true := by
    induction leads with
    | here => exact ⟨ended, idle, connected_eq_zero_iff.1 empty⟩
    | begin earlier fresh ih =>
        refine ⟨ih.1, fun caller => ?_, ih.2.2⟩
        rw [has_begin (HubCall.of_isFresh fresh).2.2]
        exact ih.2.1 caller
    | @act desk earlier caller call next hub deed calling step ih =>
        rcases ih with ⟨ended, idle, empty⟩
        have waits : call.isOpening = false := by
          simpa [has_of_getElem? calling] using idle caller
        refine ⟨step.isShutDown_iff.2 (.inl ended), fun author => ?_, fun handle => ?_⟩
        · by_cases same : caller = author
          · subst same
            rw [has_act_self calling]
            intro opening
            rcases step.isOpening_of_next opening with before | lets
            · exact Bool.false_ne_true (waits.symm.trans before)
            · exact Bool.false_ne_true ((step.active_of_admitted (.inl lets)).symm.trans ended)
          · rw [has_act_other same]
            exact idle author
        · change ¬hub.holds handle = true
          rw [step.holds_iff]
          rintro (put | ⟨before, _⟩)
          · subst put
            exact Bool.false_ne_true (waits.symm.trans step.isOpening_of_stored)
          · exact empty handle before
    | @upkeep desk earlier hub kept ih =>
        refine ⟨kept.isShutDown.trans ih.1, ih.2.1, fun handle => ?_⟩
        change ¬hub.holds handle = true
        rw [kept.holds_eq]
        exact ih.2.2 handle
  exact connected_eq_zero_iff.2 stays.2.2

end Desk

end SensorStream
