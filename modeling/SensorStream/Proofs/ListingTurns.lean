import SensorStream.Proofs.ListingCalls

/-!
# Listings take turns

Any number of calls start listings on one hub, others use the hub and its queue, and it may be
shut down at any moment.  The flag is set for one call that has claimed the listing and not yet
started it, or for one listing that is under way, and for nothing else.  So no listing begins
before the one before it is over, and the events of one listing have all gone into the queue
before the first event of the next.
-/

namespace SensorStream

/-! ## Counting in lists -/

theorem countP_set_add {Entry : Type} {entries : List Entry} {place : Nat} {entry : Entry}
    (found : entries[place]? = some entry) (such : Entry → Bool) (next : Entry) :
    (entries.set place next).countP such + (such entry).toNat =
      entries.countP such + (such next).toNat := by
  rcases List.getElem?_eq_some_iff.1 found with ⟨within, rfl⟩
  have one (holds : Bool) : (if holds = true then 1 else 0) = holds.toNat := by
    cases holds <;> rfl
  have counted : (such entries[place]).toNat ≤ entries.countP such := by
    cases held : such entries[place] with
    | false => exact Nat.zero_le _
    | true => exact List.countP_pos_iff.2 ⟨_, List.getElem_mem within, held⟩
  rw [List.countP_set within, one, one]
  omega

theorem of_getElem?_concat {Entry : Type} {entries : List Entry} {last entry : Entry}
    {place : Nat} (found : (entries ++ [last])[place]? = some entry) :
    entries[place]? = some entry ∨ place = entries.length ∧ entry = last := by
  rcases Nat.lt_trichotomy place entries.length with within | rfl | beyond
  · rw [List.getElem?_append_left within] at found
    exact .inl found
  · rw [List.getElem?_concat_length] at found
    exact .inr ⟨rfl, (Option.some.inj found).symm⟩
  · rw [List.getElem?_eq_none (by simpa using beyond)] at found
    cases found

/-! ## What a listing does by itself -/

namespace Hub

variable {System : Type} [Backend System] {hub later : Hub System} {events : List Event}

/-- A listing takes a step, or puts its next event into the queue because it found the queue
open when it looked. -/
inductive Works (hub : Hub System) : List Event → Hub System → Prop where
  | step {answers : List Answer} {events : List Event} {next : Hub System}
      (step : hub.ListStep answers events next) : Works hub events next
  | slip {index : Nat} {event : Event} {coming : List Event} {queue : EventQueue}
      (publishing : hub.lister = .publishing index (event :: coming))
      (offered : hub.queue.offer? event = some queue) :
      Works hub [event] { hub with queue := queue, lister := .publishing index coming }

/-- The queue with what was published, and what else a listing leaves alone. -/
structure Worked (hub : Hub System) (events : List Event) (later : Hub System) : Prop where
  effect : ∃ lost : Bool, hub.queue.Effect later.queue events [] lost
  count : later.systems.length = hub.systems.length
  live : hub.lister.isLive = true
  /-- The flag is taken back when the listing is over. -/
  listing : later.listing = (later.lister.isLive && hub.listing)

theorem Works.worked (works : hub.Works events later) : hub.Worked events later := by
  cases works with
  | step step =>
      cases step with
      | ask scanning | goOn scanning | exhaust scanning | finish scanning =>
          exact ⟨⟨false, .refl _⟩, rfl, by rw [scanning]; rfl, rfl⟩
      | refuse publishing =>
          exact ⟨⟨false, .refl _⟩, rfl, by rw [publishing]; rfl, rfl⟩
      | publish publishing stored =>
          exact ⟨⟨false, .putIn (EventQueue.offer?_of_publish_stored stored)⟩, rfl,
            by rw [publishing]; rfl, rfl⟩
      | lose publishing lost =>
          rw [(EventQueue.of_publish_lost lost).2.2]
          exact ⟨⟨true, .lose _⟩, rfl, by rw [publishing]; rfl, rfl⟩
  | slip publishing offered =>
      exact ⟨⟨false, .putIn offered⟩, rfl, by rw [publishing]; rfl, rfl⟩

/-- What holds at every moment of a listing goes on to hold. -/
theorem Regular.works {total steps : Nat} {answers : List Answer} {published : List Event}
    (regular : hub.Regular total steps answers published) (works : hub.Works events later) :
    ∃ (steps : Nat) (answers : List Answer),
      later.Regular total steps answers (published ++ events) := by
  cases works with
  | step step => exact ⟨_, _, regular.act step⟩
  | slip publishing offered =>
      rcases regular with ⟨count, bound, paced, announced⟩
      rw [publishing] at paced announced
      refine ⟨steps + 1, answers, count, bound, ?_, ?_⟩
      · simp only [slack, List.length_append, List.length_singleton] at paced ⊢
        omega
      · simpa [Announced] using announced

end Hub

/-! ## A hub with all that goes on around it -/

/-- What the calls share, the calls, each under the number of its caller, and the events that
have gone into the queue and come out of it.  An event that a listing has published bears the
number of this listing. -/
structure Hall (System : Type) where
  rota : Rota System
  calls : List ListingCall
  entered : List (Option Nat × Event)
  left : List Event

/-- The events that bear this number. -/
def publishedBy (number : Nat) (entered : List (Option Nat × Event)) : List Event :=
  entered.filterMap fun entry => if entry.1 = some number then some entry.2 else none

/-- The numbers of the listings, once for each event that they have published. -/
def turnsIn (entered : List (Option Nat × Event)) : List Nat :=
  entered.filterMap Prod.fst

section Entered

variable {number other : Nat} {entered : List (Option Nat × Event)}

theorem publishedBy_append (more : List (Option Nat × Event)) :
    publishedBy number (entered ++ more) = publishedBy number entered ++ publishedBy number more :=
  List.filterMap_append

theorem publishedBy_self (events : List Event) :
    publishedBy number (events.map fun event => (some number, event)) = events := by
  simp [publishedBy, List.filterMap_map]

theorem publishedBy_other {author : Option Nat} (different : author ≠ some number)
    (events : List Event) : publishedBy number (events.map fun event => (author, event)) = [] := by
  simp [publishedBy, List.filterMap_map, different]

theorem turnsIn_append (more : List (Option Nat × Event)) :
    turnsIn (entered ++ more) = turnsIn entered ++ turnsIn more :=
  List.filterMap_append

theorem turnsIn_other (events : List Event) :
    turnsIn (events.map fun event => (none, event)) = [] := by
  simp [turnsIn, List.filterMap_map]

theorem turnsIn_self (events : List Event) :
    turnsIn (events.map fun event => (some number, event)) =
      List.replicate events.length number := by
  induction events with
  | nil => rfl
  | cons event later ih => exact congrArg (number :: ·) ih

/-- Nothing bears the number of a listing that is still to come. -/
theorem publishedBy_of_fresh (fresh : ∀ other ∈ turnsIn entered, other < number) :
    publishedBy number entered = [] := by
  rw [publishedBy, List.filterMap_eq_nil_iff]
  intro entry member
  split
  · rename_i same
    exact absurd (fresh number (List.mem_filterMap.2 ⟨entry, member, same⟩)) (Nat.lt_irrefl _)
  · rfl

end Entered

namespace Hall

variable {System : Type}

/-- Nobody has called yet. -/
def start (hub : Hub System) : Hall System :=
  ⟨⟨hub, [], none, none⟩, [], [], []⟩

/-- The hub as the listing sees it that is at this stage. -/
def view (hall : Hall System) (stage : Lister) : Hub System :=
  { hall.rota.hub with lister := stage }

/-- Another call begins. -/
def begin (hall : Hall System) (call : ListingCall) : Hall System :=
  { hall with calls := hall.calls ++ [call] }

/-- A call has taken a step. -/
def act (hall : Hall System) (caller : Nat) (rota : Rota System) (call : ListingCall)
    (takes : List Event) : Hall System :=
  { hall with rota := rota, calls := hall.calls.set caller call, left := hall.left ++ takes }

/-- The listing with this number has left the hub like this. -/
def list (hall : Hall System) (number : Nat) (hub : Hub System) (events : List Event) :
    Hall System :=
  { hall with
    rota :=
      { hall.rota with hub := hub, listings := hall.rota.listings.set number hub.lister }
    entered := hall.entered ++ events.map fun event => (some number, event) }

/-- Others have used the hub and its queue. -/
def others (hall : Hall System) (hub : Hub System) (puts takes : List Event) : Hall System :=
  { hall with
    rota := { hall.rota with hub := hub }
    entered := hall.entered ++ puts.map fun event => (none, event)
    left := hall.left ++ takes }

/-- What may come of this, when everybody's steps come in any order. -/
inductive Leads [Backend System] (first : Hall System) : Hall System → Prop where
  | here : Leads first first
  | begin {hall : Hall System} (earlier : Leads first hall) {call : ListingCall}
      (fresh : call.isFresh = true) : Leads first (hall.begin call)
  | act {hall : Hall System} (earlier : Leads first hall) {caller : Nat}
      {call next : ListingCall} {rota : Rota System} {takes : List Event}
      (calling : hall.calls[caller]? = some call)
      (step : call.Step hall.rota caller rota next takes) :
      Leads first (hall.act caller rota next takes)
  | list {hall : Hall System} (earlier : Leads first hall) {number : Nat} {stage : Lister}
      {hub : Hub System} {events : List Event}
      (listing : hall.rota.listings[number]? = some stage)
      (works : (hall.view stage).Works events hub) : Leads first (hall.list number hub events)
  | others {hall : Hall System} (earlier : Leads first hall) {hub : Hub System}
      {puts takes : List Event} {lost : Bool} (outside : hall.rota.hub.Outside hub)
      (listing : hub.listing = hall.rota.hub.listing)
      (isShutDown : hub.isShutDown = hall.rota.hub.isShutDown)
      (effect : hall.rota.hub.queue.Effect hub.queue puts takes lost) :
      Leads first (hall.others hub puts takes)

/-! ## What holds at every moment -/

/-- What a listing of this number has published so far, when it is at this stage, is what it
announces. -/
def Announces (hall : Hall System) (number : Nat) (stage : Lister) : Prop :=
  ∃ (steps : Nat) (answers : List Answer),
    (hall.view stage).Regular hall.rota.hub.systems.length steps answers
      (publishedBy number hall.entered)

structure Orderly (hall : Hall System) : Prop where
  /-- The flag is set for one claimant or for one listing that is under way. -/
  claimed : hall.calls.countP ListingCall.isClaimant +
    hall.rota.listings.countP Lister.isLive = hall.rota.hub.listing.toNat
  started : hall.calls.countP ListingCall.hasStarted = hall.rota.listings.length
  /-- Only the latest listing may be under way, and the hub knows it. -/
  latest : ∀ (number : Nat) (stage : Lister), hall.rota.listings[number]? = some stage →
    stage.isLive = true → number + 1 = hall.rota.listings.length
  lister : hall.rota.hub.lister = hall.rota.listings.getLast?.getD .absent
  ordered : hall.entered.map Prod.snd = hall.left ++ hall.rota.hub.queue.pending
  turns : (turnsIn hall.entered).Pairwise (· ≤ ·)
  known : ∀ number ∈ turnsIn hall.entered, number < hall.rota.listings.length
  announced : ∀ (number : Nat) (stage : Lister), hall.rota.listings[number]? = some stage →
    hall.Announces number stage

/-- A listing announces the same after others have used the hub. -/
theorem Announces.outside {hall later : Hall System} {number : Nat} {stage : Lister}
    (announces : hall.Announces number stage)
    (count : later.rota.hub.systems.length = hall.rota.hub.systems.length)
    (closed : hall.rota.hub.queue.closed = true → later.rota.hub.queue.closed = true)
    (same : publishedBy number later.entered = publishedBy number hall.entered) :
    later.Announces number stage := by
  rcases announces with ⟨steps, answers, regular⟩
  refine ⟨steps, answers, ?_⟩
  rw [same, count]
  exact regular.outside ⟨rfl, count, closed⟩

namespace Orderly

variable {hall : Hall System}

theorem begin (orderly : hall.Orderly) {call : ListingCall} (fresh : call.isFresh = true) :
    (hall.begin call).Orderly := by
  have idle : call.isClaimant = false ∧ call.hasStarted = false := by
    cases call with
    | list stage | shutdown stage =>
        cases stage <;> first | exact ⟨rfl, rfl⟩ | cases fresh
  refine { orderly with claimed := ?_, started := ?_ }
  · rw [Hall.begin, List.countP_append, List.countP_singleton, idle.1]
    exact orderly.claimed
  · rw [Hall.begin, List.countP_append, List.countP_singleton, idle.2]
    exact orderly.started

/-- Where the listings stay as they are, it remains to count the calls. -/
theorem aside (orderly : hall.Orderly) {later : Hall System} {puts takes : List Event}
    {lost : Bool} (listings : later.rota.listings = hall.rota.listings)
    (outside : hall.rota.hub.Outside later.rota.hub)
    (effect : hall.rota.hub.queue.Effect later.rota.hub.queue puts takes lost)
    (entered : later.entered = hall.entered ++ puts.map fun event => (none, event))
    (left : later.left = hall.left ++ takes)
    (claimed : later.calls.countP ListingCall.isClaimant +
      hall.rota.listings.countP Lister.isLive = later.rota.hub.listing.toNat)
    (started : later.calls.countP ListingCall.hasStarted =
      hall.calls.countP ListingCall.hasStarted) : later.Orderly := by
  have turns : turnsIn later.entered = turnsIn hall.entered := by
    rw [entered, turnsIn_append, turnsIn_other, List.append_nil]
  constructor
  case claimed =>
    rw [listings]
    exact claimed
  case started =>
    rw [listings, started]
    exact orderly.started
  case latest =>
    rw [listings]
    exact orderly.latest
  case lister =>
    rw [listings, outside.lister]
    exact orderly.lister
  case ordered =>
    have moved := effect.pending_eq
    rw [entered, left, List.map_append, orderly.ordered, List.append_assoc, List.append_assoc,
      ← moved, List.map_map]
    simp [Function.comp_def]
  case turns =>
    rw [turns]
    exact orderly.turns
  case known =>
    rw [turns, listings]
    exact orderly.known
  case announced =>
    intro number stage found
    rw [listings] at found
    refine (orderly.announced number stage found).outside outside.count outside.closed ?_
    have apart : (none : Option Nat) ≠ some number := nofun
    rw [entered, publishedBy_append, publishedBy_other apart, List.append_nil]

/-- Where no listing is under way, another one may begin. -/
theorem spawn (orderly : hall.Orderly) {later : Hall System}
    (quiet : hall.rota.listings.countP Lister.isLive = 0)
    (begun : later.rota.hub = hall.rota.hub.startLister)
    (listings : later.rota.listings = hall.rota.listings ++ [.scanning 0])
    (entered : later.entered = hall.entered) (left : later.left = hall.left)
    (claimed : later.calls.countP ListingCall.isClaimant + 1 = hall.rota.hub.listing.toNat)
    (started : later.calls.countP ListingCall.hasStarted =
      hall.calls.countP ListingCall.hasStarted + 1) : later.Orderly := by
  have longer : later.rota.listings.length = hall.rota.listings.length + 1 := by
    rw [listings, List.length_append, List.length_singleton]
  constructor
  case claimed =>
    rw [listings, List.countP_append, quiet, begun]
    exact claimed
  case started =>
    rw [started, orderly.started, longer]
  case latest =>
    intro number stage found live
    rw [listings] at found
    rcases of_getElem?_concat found with earlier | ⟨rfl, _⟩
    · have ended := List.countP_eq_zero.1 quiet stage (List.mem_of_getElem? earlier)
      exact absurd live ended
    · exact longer.symm
  case lister =>
    rw [begun, listings, List.getLast?_concat]
    rfl
  case ordered =>
    rw [entered, left, begun]
    exact orderly.ordered
  case turns =>
    rw [entered]
    exact orderly.turns
  case known =>
    intro number member
    rw [entered] at member
    rw [longer]
    exact Nat.lt_succ_of_lt (orderly.known number member)
  case announced =>
    intro number stage found
    rw [listings] at found
    rcases of_getElem?_concat found with earlier | ⟨rfl, rfl⟩
    · refine (orderly.announced number stage earlier).outside ?_ ?_ ?_
      · rw [begun]
        rfl
      · rw [begun]
        exact id
      · rw [entered]
    · have scanning : (later.view (.scanning 0)).lister = .scanning 0 := rfl
      refine ⟨0, [], ?_⟩
      rw [entered, publishedBy_of_fresh orderly.known]
      exact .begin scanning

theorem act (orderly : hall.Orderly) {caller : Nat} {call next : ListingCall}
    {rota : Rota System} {takes : List Event} (calling : hall.calls[caller]? = some call)
    (step : call.Step hall.rota caller rota next takes) :
    (hall.act caller rota next takes).Orderly := by
  have claimants := countP_set_add calling ListingCall.isClaimant next
  have starters := countP_set_add calling ListingCall.hasStarted next
  have claimed := orderly.claimed
  have nothing : hall.entered = hall.entered ++ ([] : List Event).map fun event => (none, event) :=
    (List.append_nil _).symm
  cases step.change with
  | beside claimant same listings outside listing effect =>
      rw [claimant] at claimants
      rw [same] at starters
      refine orderly.aside listings outside effect nothing rfl ?_ (Nat.add_right_cancel starters)
      rw [Hall.act, listing, ← claimed, Nat.add_right_cancel claimants]
  | claim free before after same =>
      rw [before, after] at claimants
      rw [free] at claimed
      rw [same] at starters
      refine orderly.aside rfl ⟨rfl, rfl, id⟩ (.refl _) nothing rfl ?_
        (Nat.add_right_cancel starters)
      simp only [Hall.act, Hub.claimListing, Bool.toNat_true, Bool.toNat_false]
        at claimants claimed ⊢
      omega
  | abandon before after same =>
      rw [before, after] at claimants
      rw [same] at starters
      refine orderly.aside rfl ⟨rfl, rfl, id⟩ (.refl _) nothing rfl ?_
        (Nat.add_right_cancel starters)
      have most := Bool.toNat_le hall.rota.hub.listing
      simp only [Hall.act, Bool.toNat_true, Bool.toNat_false] at claimants claimed ⊢
      omega
  | spawn before after unstarted starts =>
      rw [before, after] at claimants
      rw [unstarted, starts] at starters
      -- The call was the one for which the flag is set, so no listing is under way.
      have most := Bool.toNat_le hall.rota.hub.listing
      simp only [Bool.toNat_true, Bool.toNat_false] at claimants starters
      have quiet : hall.rota.listings.countP Lister.isLive = 0 := by omega
      refine orderly.spawn quiet rfl rfl rfl (List.append_nil _) ?_ starters
      rw [quiet] at claimed
      simp only [Hall.act]
      omega

/-- The flag is set for a listing that is under way. -/
theorem listing_of_live (orderly : hall.Orderly) {number : Nat} {stage : Lister}
    (found : hall.rota.listings[number]? = some stage) (live : stage.isLive = true) :
    hall.rota.hub.listing = true := by
  have some : 0 < hall.rota.listings.countP Lister.isLive :=
    List.countP_pos_iff.2 ⟨stage, List.mem_of_getElem? found, live⟩
  have claimed := orderly.claimed
  have most := Bool.toNat_le hall.rota.hub.listing
  rw [← Bool.toNat_eq_one]
  omega

/-- A listing gets on. -/
theorem list [Backend System] (orderly : hall.Orderly) {number : Nat} {stage : Lister}
    {hub : Hub System} {events : List Event}
    (listing : hall.rota.listings[number]? = some stage)
    (works : (hall.view stage).Works events hub) : (hall.list number hub events).Orderly := by
  have worked := works.worked
  have last := orderly.latest number stage listing worked.live
  have counted := countP_set_add listing Lister.isLive hub.lister
  rcases worked.effect with ⟨lost, effect⟩
  constructor
  case claimed =>
    have claimed := orderly.claimed
    have live : stage.isLive = true := worked.live
    have set := orderly.listing_of_live listing live
    have kept : hub.listing = hub.lister.isLive := by
      rw [worked.listing]
      exact (congrArg _ set).trans (Bool.and_true _)
    have some : 0 < hall.rota.listings.countP Lister.isLive :=
      List.countP_pos_iff.2 ⟨stage, List.mem_of_getElem? listing, live⟩
    rw [live, Bool.toNat_true] at counted
    rw [set, Bool.toNat_true] at claimed
    simp only [Hall.list, kept]
    omega
  case started =>
    simp only [Hall.list, List.length_set]
    exact orderly.started
  case latest =>
    intro other later found live
    simp only [Hall.list, List.length_set] at found ⊢
    rw [List.getElem?_set] at found
    split at found
    · rename_i same
      exact same ▸ last
    · exact orderly.latest other later found live
  case lister =>
    have within := (List.getElem?_eq_some_iff.1 listing).1
    -- Only the latest listing is under way, so this is the last one in the list.
    have place : hall.rota.listings.length - 1 = number := by omega
    simp only [Hall.list, List.getLast?_eq_getElem?, List.length_set, place]
    rw [List.getElem?_set_self within]
    rfl
  case ordered =>
    have moved := effect.pending_eq
    simp only [Hall.list, List.map_append, orderly.ordered, List.map_map, List.append_assoc]
    rw [List.nil_append] at moved
    rw [← moved]
    simp [Function.comp_def, Hall.view]
  case turns =>
    rw [Hall.list, turnsIn_append, turnsIn_self, List.pairwise_append]
    refine ⟨orderly.turns, List.pairwise_replicate_of_refl, fun earlier member later here => ?_⟩
    have before := orderly.known earlier member
    rw [List.eq_of_mem_replicate here]
    omega
  case known =>
    intro other member
    simp only [Hall.list, List.length_set]
    rw [Hall.list, turnsIn_append, turnsIn_self] at member
    rcases List.mem_append.1 member with before | here
    · exact orderly.known other before
    · rw [List.eq_of_mem_replicate here]
      omega
  case announced =>
    intro other later found
    simp only [Hall.list] at found
    rw [List.getElem?_set] at found
    split at found
    · rename_i same
      subst same
      rw [if_pos (List.getElem?_eq_some_iff.1 listing).1] at found
      cases found
      rcases orderly.announced number stage listing with ⟨steps, answers, regular⟩
      rcases regular.works works with ⟨more, answered, further⟩
      refine ⟨more, answered, ?_⟩
      rw [Hall.list, publishedBy_append, publishedBy_self]
      exact worked.count ▸ further
    · rename_i different
      have apart : some number ≠ some other := fun same => different (Option.some.inj same)
      refine (orderly.announced other later found).outside worked.count effect.closed_mono ?_
      rw [Hall.list, publishedBy_append, publishedBy_other apart, List.append_nil]

theorem others (orderly : hall.Orderly) {hub : Hub System} {puts takes : List Event} {lost : Bool}
    (outside : hall.rota.hub.Outside hub) (listing : hub.listing = hall.rota.hub.listing)
    (effect : hall.rota.hub.queue.Effect hub.queue puts takes lost) :
    (hall.others hub puts takes).Orderly := by
  refine orderly.aside rfl outside effect rfl rfl ?_ rfl
  rw [Hall.others, listing]
  exact orderly.claimed

end Orderly

theorem orderly_start {systems : List System} {capacity : Nat} {hub : Hub System}
    (created : Hub.create systems capacity = .ok hub) : (start hub).Orderly := by
  cases Hub.eq_fresh_of_create created
  exact ⟨rfl, rfl, fun _ _ => nofun, rfl, rfl, .nil, fun _ => nofun, fun _ _ => nofun⟩

variable [Backend System]

theorem Leads.orderly {first hall : Hall System} (leads : first.Leads hall)
    (begun : first.Orderly) : hall.Orderly := by
  induction leads with
  | here => exact begun
  | begin _ fresh ih => exact ih.begin fresh
  | act _ calling step ih => exact ih.act calling step
  | list _ listing works ih => exact ih.list listing works
  | others _ outside listing _ effect ih => exact ih.others outside listing effect

/-! ## What follows for the listings of a hub -/

/-- Of all listings that were started one at most is under way, and they have published one
after the other. -/
structure Exclusive (hall : Hall System) : Prop where
  single : hall.rota.listings.countP Lister.isLive ≤ 1
  latest : ∀ (number : Nat) (stage : Lister), hall.rota.listings[number]? = some stage →
    stage.isLive = true → number + 1 = hall.rota.listings.length
  /-- So a hub need not know of more than one. -/
  lister : hall.rota.hub.lister = hall.rota.listings.getLast?.getD .absent
  /-- All events of one listing have gone into the queue before the first of the next, and they
  come out of it in the order in which they went in. -/
  turns : (turnsIn hall.entered).Pairwise (· ≤ ·)
  ordered : hall.entered.map Prod.snd = hall.left ++ hall.rota.hub.queue.pending
  /-- What each listing has published is the beginning of what it announces. -/
  announced : ∀ number < hall.rota.listings.length, ∃ answers : List Answer,
    answers.length ≤ hall.rota.hub.systems.length ∧
      publishedBy number hall.entered <+:
        Hub.announcements hall.rota.hub.systems.length answers
  /-- The flag is set exactly while a listing is under way or a call is about to start one. -/
  claimed : hall.rota.hub.listing = true ↔
    (∃ stage ∈ hall.rota.listings, stage.isLive = true) ∨
      ∃ call ∈ hall.calls, call.isClaimant = true
  /-- A call that finds it set is refused and does nothing; -/
  refused : ∀ {caller : Nat} {rota : Rota System} {next : ListingCall} {takes : List Event},
    hall.rota.hub.listing = true →
      ListingCall.Step hall.rota caller (.list .claiming) rota next takes →
        next = .list (.answered (.error ListingCall.busy)) ∧ rota = hall.rota ∧ takes = []
  /-- and as many listings were started as other calls have started one. -/
  started : hall.calls.countP ListingCall.hasStarted = hall.rota.listings.length

omit [Backend System] in
theorem Orderly.exclusive {hall : Hall System} (orderly : hall.Orderly) : hall.Exclusive := by
  have most := Bool.toNat_le hall.rota.hub.listing
  have claimed := orderly.claimed
  refine ⟨by omega, orderly.latest, orderly.lister, orderly.turns, orderly.ordered, ?_, ?_, ?_,
    orderly.started⟩
  · intro number within
    rcases orderly.announced number _ (List.getElem?_eq_getElem within) with
      ⟨steps, answers, regular⟩
    exact ⟨answers, regular.answered, regular.published_begins⟩
  · rw [← List.countP_pos_iff, ← List.countP_pos_iff, ← Bool.toNat_eq_one]
    omega
  · exact fun claimed step => step.of_claimed claimed

/-- Whatever calls are made on a hub, whatever others do to it, and in whatever order. -/
theorem exclusive_of_leads {systems : List System} {capacity : Nat} {hub : Hub System}
    {hall : Hall System} (created : Hub.create systems capacity = .ok hub)
    (leads : (start hub).Leads hall) : hall.Exclusive :=
  (leads.orderly (orderly_start created)).exclusive

/-- One listing was started, which is at this stage. -/
def scene (hub : Hub System) (stage : Lister) (calls : List ListingCall)
    (entered : List (Option Nat × Event)) (left : List Event) : Hall System :=
  ⟨⟨{ hub with lister := stage, listing := stage.isLive }, [stage], some 0, none⟩, calls, entered,
    left⟩

/-- The first call starts the first listing. -/
theorem leads_scene {hub : Hub System} (active : hub.isShutDown = false)
    (free : hub.listing = false) :
    (start hub).Leads (scene hub (.scanning 0) [.list (.answered (.ok ()))] [] []) := by
  have begun := @Leads.begin _ _ (start hub) _ .here (.list .looking) rfl
  have admitted := @Leads.act _ _ _ _ begun 0 _ _ _ _ rfl (.letIn active)
  have claimed := @Leads.act _ _ _ _ admitted 0 _ _ _ _ rfl (.claim free)
  have locked := @Leads.act _ _ _ _ claimed 0 _ _ _ _ rfl (.lock rfl)
  have joined := @Leads.act _ _ _ _ locked 0 _ _ _ _ rfl (.join fun _ _ => nofun)
  have spawned := @Leads.act _ _ _ _ joined 0 _ _ _ _ rfl .spawn
  have kept := @Leads.act _ _ _ _ spawned 0 _ _ _ _ rfl .keep
  exact @Leads.act _ _ _ _ kept 0 _ _ _ _ rfl .leave

/-- One back end, which lists one sensor. -/
def lone : Hub RehearsedBackend :=
  .fresh [⟨.simulated, .ok [Hub.listed], [], true⟩] 2

/-- The same after its sensor was announced. -/
def told : Hub RehearsedBackend :=
  { lone with queue := (lone.queue.put (.found Hub.listed)).2 }

/-- A call is refused while the first listing is under way.  Then the hub is shut down before
this listing has published everything, and the flag is free all the same. -/
theorem exclusive_of_cut_listing :
    ∃ hall : Hall RehearsedBackend, (start lone).Leads hall ∧
      hall.calls = [.list (.answered (.ok ())), .list (.answered (.error ListingCall.busy)),
        .shutdown .emptying] ∧
      hall.entered = [(some 0, .found Hub.listed)] ∧ hall.rota.hub.listing = false ∧
      hall.Exclusive := by
  have started := @leads_scene _ _ lone rfl rfl
  have asked := @Leads.list _ _ _ _ started 0 _ _ _ rfl (.step (.ask rfl rfl rfl))
  have found := @Leads.list _ _ _ _ asked 0 _ _ _ rfl (.step (.publish rfl rfl))
  change (start lone).Leads (scene told (.publishing 0 [.progress (Hub.fraction 1 1)])
    [.list (.answered (.ok ()))] [(some 0, .found Hub.listed)] []) at found
  have calling := @Leads.begin _ _ _ _ found (.list .looking) rfl
  have admitted := @Leads.act _ _ _ _ calling 1 _ _ _ _ rfl (.letIn rfl)
  have refused := @Leads.act _ _ _ _ admitted 1 _ _ _ _ rfl (.refuse rfl)
  have closing := @Leads.begin _ _ _ _ refused (.shutdown .marking) rfl
  have marked := @Leads.act _ _ _ _ closing 2 _ _ _ _ rfl (.mark rfl)
  have closed := @Leads.act _ _ _ _ marked 2 _ _ _ _ rfl (.close (.markClosed _) rfl)
  have given := @Leads.list _ _ _ _ closed 0 _ _ _ rfl (.step (.refuse rfl rfl))
  have ended := @Leads.list _ _ _ _ given 0 _ _ _ rfl (.step (.finish rfl))
  have created : Hub.create lone.systems 2 = .ok lone := rfl
  exact ⟨_, ended, rfl, rfl, rfl, exclusive_of_leads created ended⟩

end Hall

end SensorStream
