import SensorStream.Proofs.ListingCycle

/-!
# Calls that start a listing, step by step

A call that starts a listing looks whether the hub is shut down, claims the listing by a flag
that was not set, takes the slot for itself in which the thread of the last listing is kept,
waits for that thread, starts one of its own and leaves it in the slot.  A call that shuts the
hub down waits for the thread in the slot last.  Between two of these steps other calls may act
on the same hub, and so may every listing that was started.

`ListingCall.Step` lists the steps.  A call that nobody interrupts does what `Hub.list` says.
-/

namespace SensorStream

/-! ## Calls -/

/-- How far a call to start a listing has got. -/
inductive Starting where
  /-- It is going to look whether the hub is shut down. -/
  | looking
  /-- It is going to set the flag. -/
  | claiming
  /-- It has set the flag, and is going to take the slot for itself. -/
  | locking
  /-- It has the slot for itself, and waits for the listing that was kept there. -/
  | joining (previous : Option Nat)
  /-- It is going to start a thread. -/
  | spawning
  /-- The listing with this number is to be kept in the slot. -/
  | keeping (number : Nat)
  /-- It is going to leave the slot to others. -/
  | leaving (result : Except ClientError Unit)
  | answered (result : Except ClientError Unit)

/-- How far a call to shut a hub down has got. -/
inductive Halting where
  | marking
  | closing
  /-- It is going to empty the store of links. -/
  | emptying
  | locking
  | joining (previous : Option Nat)
  | leaving
  | returned

inductive ListingCall where
  | list (stage : Starting)
  | shutdown (stage : Halting)

/-- What calls share: the hub, the listings that were started on it, each wherever it is now,
and the slot for one of them, which one call at a time has for itself. -/
structure Rota (System : Type) where
  hub : Hub System
  listings : List Lister
  slot : Option Nat
  holder : Option Nat

/-- Whether a listing is under way. -/
def Lister.isLive : Lister → Bool
  | .absent => false
  | _ => true

namespace Rota

variable {System : Type}

/-- The listing that was kept in the slot, if there was one, is over. -/
def IsPast (rota : Rota System) (previous : Option Nat) : Prop :=
  ∀ number stage, previous = some number → rota.listings[number]? = some stage →
    stage.isLive = false

end Rota

namespace ListingCall

/-- The call has not done anything. -/
def isFresh : ListingCall → Bool
  | list .looking => true
  | shutdown .marking => true
  | _ => false

/-- The call has claimed the listing and has not started it. -/
def isClaimant : ListingCall → Bool
  | list .locking => true
  | list (.joining _) => true
  | list .spawning => true
  | _ => false

/-- The call has started a listing. -/
def hasStarted : ListingCall → Bool
  | list (.keeping _) => true
  | list (.leaving (.ok ())) => true
  | list (.answered (.ok ())) => true
  | _ => false

/-- The answer to a call that finds the listing claimed. -/
def busy : ClientError :=
  .listingFailed "listing already in progress"

/-- The answer to a call that cannot start a thread. -/
def noThread (report : String) : ClientError :=
  .listingFailed ("Failed to spawn listing thread: " ++ report)

variable {System : Type}

/-- One step of the call with this number: from the call and what calls share to both of them
afterwards, with the events that the call takes out of the queue. -/
inductive Step (rota : Rota System) (caller : Nat) :
    ListingCall → Rota System → ListingCall → List Event → Prop where
  | turnAway (ended : rota.hub.isShutDown = true) :
      Step rota caller (list .looking) rota (list (.answered (.error .sourceClosed))) []
  | letIn (active : rota.hub.isShutDown = false) :
      Step rota caller (list .looking) rota (list .claiming) []
  | refuse (claimed : rota.hub.listing = true) :
      Step rota caller (list .claiming) rota (list (.answered (.error busy))) []
  | claim (free : rota.hub.listing = false) :
      Step rota caller (list .claiming) { rota with hub := rota.hub.claimListing }
        (list .locking) []
  | lock (free : rota.holder = none) :
      Step rota caller (list .locking) { rota with slot := none, holder := some caller }
        (list (.joining rota.slot)) []
  | join {previous : Option Nat} (past : rota.IsPast previous) :
      Step rota caller (list (.joining previous)) rota (list .spawning) []
  | spawn :
      Step rota caller (list .spawning)
        { rota with
          hub := rota.hub.startLister, listings := rota.listings ++ [.scanning 0] }
        (list (.keeping rota.listings.length)) []
  /-- The thread is not to be had, and the flag is taken back. -/
  | abandon (report : String) :
      Step rota caller (list .spawning)
        { rota with hub := { rota.hub with listing := false } }
        (list (.leaving (.error (noThread report)))) []
  | keep {number : Nat} :
      Step rota caller (list (.keeping number)) { rota with slot := some number }
        (list (.leaving (.ok ()))) []
  | leave {result : Except ClientError Unit} :
      Step rota caller (list (.leaving result)) { rota with holder := none }
        (list (.answered result)) []
  | mark (active : rota.hub.isShutDown = false) :
      Step rota caller (shutdown .marking) { rota with hub := rota.hub.markShutDown }
        (shutdown .closing) []
  | markAgain (ended : rota.hub.isShutDown = true) :
      Step rota caller (shutdown .marking) rota (shutdown .returned) []
  /-- What is in the queue is taken out, now or one by one later on. -/
  | close {queue : EventQueue} {takes : List Event}
      (effect : rota.hub.queue.Effect queue [] takes false) (closed : queue.closed = true) :
      Step rota caller (shutdown .closing) { rota with hub := { rota.hub with queue := queue } }
        (shutdown .emptying) takes
  | empty :
      Step rota caller (shutdown .emptying) { rota with hub := rota.hub.letAllGo }
        (shutdown .locking) []
  | lockLast (free : rota.holder = none) :
      Step rota caller (shutdown .locking) { rota with slot := none, holder := some caller }
        (shutdown (.joining rota.slot)) []
  | joinLast {previous : Option Nat} (past : rota.IsPast previous) :
      Step rota caller (shutdown (.joining previous)) rota (shutdown .leaving) []
  | leaveLast :
      Step rota caller (shutdown .leaving) { rota with holder := none } (shutdown .returned) []

/-! ## What a step does to the listing -/

/-- A step has to do with the flag and the listings only if it claims the listing, starts it or
gives it up. -/
inductive Change (rota : Rota System) (call : ListingCall) :
    Rota System → ListingCall → List Event → Prop where
  | beside {later : Rota System} {next : ListingCall} {takes : List Event}
      (claimant : next.isClaimant = call.isClaimant) (started : next.hasStarted = call.hasStarted)
      (listings : later.listings = rota.listings) (outside : rota.hub.Outside later.hub)
      (listing : later.hub.listing = rota.hub.listing)
      (effect : rota.hub.queue.Effect later.hub.queue [] takes false) :
      Change rota call later next takes
  | claim {next : ListingCall} (free : rota.hub.listing = false)
      (before : call.isClaimant = false) (after : next.isClaimant = true)
      (started : next.hasStarted = call.hasStarted) :
      Change rota call { rota with hub := rota.hub.claimListing } next []
  | spawn {next : ListingCall} (before : call.isClaimant = true) (after : next.isClaimant = false)
      (unstarted : call.hasStarted = false) (started : next.hasStarted = true) :
      Change rota call
        { rota with
          hub := rota.hub.startLister, listings := rota.listings ++ [.scanning 0] } next []
  | abandon {next : ListingCall} (before : call.isClaimant = true)
      (after : next.isClaimant = false) (started : next.hasStarted = call.hasStarted) :
      Change rota call { rota with hub := { rota.hub with listing := false } } next []

namespace Step

variable {rota later : Rota System} {caller : Nat} {call next : ListingCall} {takes : List Event}

theorem change (step : Step rota caller call later next takes) :
    Change rota call later next takes := by
  cases step with
  | claim free => exact .claim free rfl rfl rfl
  | spawn => exact .spawn rfl rfl rfl rfl
  | abandon => exact .abandon rfl rfl rfl
  | close effect =>
      exact .beside rfl rfl rfl ⟨rfl, rfl, effect.closed_mono⟩ rfl effect
  | @leave result =>
      refine .beside rfl ?_ rfl ⟨rfl, rfl, id⟩ rfl (.refl _)
      cases result <;> rfl
  | _ => exact .beside rfl rfl rfl ⟨rfl, rfl, id⟩ rfl (.refl _)

/-- Where the flag is set, a call that comes to claim the listing is refused and does nothing. -/
theorem of_claimed (step : Step rota caller (list .claiming) later next takes)
    (claimed : rota.hub.listing = true) :
    next = list (.answered (.error busy)) ∧ later = rota ∧ takes = [] := by
  cases step with
  | refuse => exact ⟨rfl, rfl, rfl⟩
  | claim free => cases claimed.symm.trans free

/-- Where it is not set, the call claims it. -/
theorem of_unclaimed (step : Step rota caller (list .claiming) later next takes)
    (free : rota.hub.listing = false) :
    next = list .locking ∧ later = { rota with hub := rota.hub.claimListing } ∧ takes = [] := by
  cases step with
  | refuse claimed => cases claimed.symm.trans free
  | claim => exact ⟨rfl, rfl, rfl⟩

end Step

/-! ## A call that nobody interrupts -/

/-- The steps of one call, one after the other. -/
inductive Runs (rota : Rota System) (caller : Nat) (call : ListingCall) :
    Rota System → ListingCall → Prop where
  | here : Runs rota caller call rota call
  | next {middle later : Rota System} {between last : ListingCall} {takes : List Event} :
      Runs rota caller call middle between → Step middle caller between later last takes →
      Runs rota caller call later last

/-- Starting a listing comes to what `Hub.list` says, as far as nobody has the slot, the listing
that is kept there is over, and there are threads. -/
theorem runs_list [Backend System] (rota : Rota System) (caller : Nat)
    (free : rota.holder = none) (past : rota.IsPast rota.slot) :
    ∃ later : Rota System,
      Runs rota caller (list .looking) later (list (.answered rota.hub.list.1)) ∧
        rota.hub.list.2 = if rota.hub.list.1.isOk then later.hub.calm else later.hub := by
  rw [Hub.list]
  cases ended : rota.hub.isShutDown with
  | true => exact ⟨rota, .next .here (.turnAway ended), rfl⟩
  | false =>
      have claiming := Runs.next (@Runs.here _ rota caller _) (.letIn ended)
      cases claimed : rota.hub.listing with
      | true => exact ⟨rota, .next claiming (.refuse claimed), rfl⟩
      | false =>
          have locking := Runs.next claiming (.claim claimed)
          have spawning := Runs.next (.next locking (.lock free)) (.join past)
          have kept := Runs.next (.next spawning .spawn) .keep
          exact ⟨_, .next kept .leave, rfl⟩

end ListingCall

end SensorStream
