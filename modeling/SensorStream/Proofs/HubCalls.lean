import SensorStream.Proofs.HubUpkeep

/-!
# Calls on a hub, step by step

A call that opens a link looks first whether the hub is shut down, then draws a handle, lets
a back end open the link, and puts the link into the store last.  A call that shuts the hub
down sets the flag, closes the queue, empties the store and waits for the listing.  Between
two of these steps other calls may act on the same hub.

`HubCall.Step` lists the steps.  A call that nobody interrupts does what `acquire`, `release`
and `shutdown` say.
-/

namespace SensorStream

/-! ## Calls -/

/-- How far a call to open a link has got. -/
inductive Acquiring where
  /-- It is going to look whether the hub is shut down. -/
  | looking
  /-- It has found the hub active, and is going to draw a handle. -/
  | drawing
  /-- The back end with this number is to open a link under the handle. -/
  | opening (index : Nat) (handle : Handle)
  /-- The link is open, and is to be put into the store. -/
  | storing (handle : Handle) (link : Link)
  | answered (result : Except AcquireError Handle)

/-- How far a call to give a link up has got. -/
inductive Releasing where
  | removing
  | answered (result : Except ClientError Unit)

/-- How far a call to shut a hub down has got. -/
inductive ShuttingDown where
  | marking
  | closing
  /-- It is going to empty the store. -/
  | emptying
  /-- It waits for the listing to be over. -/
  | joining
  /-- It is over, and has emptied the store or has left that to another call. -/
  | returned (emptied : Bool)

inductive HubCall where
  | acquire (sensor : Descriptor) (stage : Acquiring)
  | release (handle : Handle) (stage : Releasing)
  | shutdown (stage : ShuttingDown)

/-- What a call has done that others may come to know of. -/
inductive Deed where
  /-- It has found the hub active. -/
  | admitted
  /-- It has put a link into the store. -/
  | stored (handle : Handle)
  /-- It has taken a link out of the store. -/
  | removed (handle : Handle)
  /-- It has shut the hub down. -/
  | marked
  /-- It has taken all links out of the store. -/
  | emptied

namespace HubCall

/-- The call has not done anything. -/
def isFresh : HubCall → Bool
  | acquire _ .looking => true
  | release _ .removing => true
  | shutdown .marking => true
  | _ => false

/-- The call has found the hub active and may still put a link into the store. -/
def isOpening : HubCall → Bool
  | acquire _ .drawing => true
  | acquire _ (.opening _ _) => true
  | acquire _ (.storing _ _) => true
  | _ => false

/-- The call is to open a link and is not over. -/
def isAcquiring : HubCall → Bool
  | acquire _ (.answered _) => false
  | acquire _ _ => true
  | _ => false

/-- The call has shut the hub down. -/
def hasMarked : HubCall → Bool
  | shutdown .closing => true
  | shutdown .emptying => true
  | shutdown .joining => true
  | shutdown (.returned emptied) => emptied
  | _ => false

/-- The call has taken all links out of the store. -/
def hasEmptied : HubCall → Bool
  | shutdown .joining => true
  | shutdown (.returned emptied) => emptied
  | _ => false

theorem of_isFresh {call : HubCall} (fresh : call.isFresh = true) :
    call.hasMarked = false ∧ call.hasEmptied = false ∧ call.isOpening = false := by
  cases call with
  | acquire sensor stage => cases stage <;> first | exact ⟨rfl, rfl, rfl⟩ | cases fresh
  | release handle stage => exact ⟨rfl, rfl, rfl⟩
  | shutdown stage => cases stage <;> first | exact ⟨rfl, rfl, rfl⟩ | cases fresh

variable {System : Type} [Backend System]

/-- One step of a call: from the hub and the call to the hub and the call afterwards, with
what the call does in it, if it is of the kind that others come to know of. -/
inductive Step (hub : Hub System) : HubCall → Hub System → HubCall → Option Deed → Prop where
  | turnAway {sensor : Descriptor} (ended : hub.isShutDown = true) :
      Step hub (acquire sensor .looking) hub
        (acquire sensor (.answered (.error .sourceClosed))) none
  | letIn {sensor : Descriptor} (active : hub.isShutDown = false) :
      Step hub (acquire sensor .looking) hub (acquire sensor .drawing) (some .admitted)
  | unsupported {sensor : Descriptor} (astray : hub.route? sensor.transport = none) :
      Step hub (acquire sensor .drawing) hub
        (acquire sensor (.answered (.error (.unsupportedTransport sensor.transport.key)))) none
  | draw {sensor : Descriptor} {index : Nat}
      (route : hub.route? sensor.transport = some index) :
      Step hub (acquire sensor .drawing) hub.drawHandle.2
        (acquire sensor (.opening index hub.drawHandle.1)) none
  | fail {sensor : Descriptor} {index : Nat} {handle : Handle} {error : AcquireError}
      {later : Hub System} (failed : hub.openAt index sensor handle = (.error error, later)) :
      Step hub (acquire sensor (.opening index handle)) later
        (acquire sensor (.answered (.error error))) none
  | open {sensor : Descriptor} {index : Nat} {handle : Handle} {link : Link}
      {later : Hub System} (opened : hub.openAt index sensor handle = (.ok link, later)) :
      Step hub (acquire sensor (.opening index handle)) later
        (acquire sensor (.storing handle link)) none
  | store {sensor : Descriptor} {handle : Handle} {link : Link} :
      Step hub (acquire sensor (.storing handle link)) (hub.hold handle link)
        (acquire sensor (.answered (.ok handle))) (some (.stored handle))
  | remove {handle : Handle} (holds : hub.holds handle = true) :
      Step hub (release handle .removing) (hub.letGo handle)
        (release handle (.answered (.ok ()))) (some (.removed handle))
  | deny {handle : Handle} (unheld : hub.holds handle = false) :
      Step hub (release handle .removing) hub
        (release handle (.answered (.error (.unknownHandle handle)))) none
  | mark (active : hub.isShutDown = false) :
      Step hub (shutdown .marking) hub.markShutDown (shutdown .closing) (some .marked)
  | markAgain (ended : hub.isShutDown = true) :
      Step hub (shutdown .marking) hub (shutdown (.returned false)) none
  | close : Step hub (shutdown .closing) hub.closeQueue (shutdown .emptying) none
  | empty : Step hub (shutdown .emptying) hub.letAllGo (shutdown .joining) (some .emptied)
  | join (absent : hub.lister = .absent) :
      Step hub (shutdown .joining) hub (shutdown (.returned true)) none

/-! ## A call that nobody interrupts -/

/-- The steps of one call, one after the other, with the hub's own work in between. -/
inductive Runs (hub : Hub System) (call : HubCall) : Hub System → HubCall → Prop where
  | here : Runs hub call hub call
  | upkeep {middle later : Hub System} {between : HubCall} :
      Runs hub call middle between → middle.Kept later → Runs hub call later between
  | next {middle later : Hub System} {between last : HubCall} {deed : Option Deed} :
      Runs hub call middle between → Step middle between later last deed →
      Runs hub call later last

namespace Runs

variable (hub : Hub System)

/-- Opening a link comes to what `acquire` says. -/
theorem of_acquire (sensor : Descriptor) :
    Runs hub (acquire sensor .looking) (hub.acquire sensor).2
      (acquire sensor (.answered (hub.acquire sensor).1)) := by
  rw [Hub.acquire]
  cases ended : hub.isShutDown with
  | true => exact .next .here (.turnAway ended)
  | false =>
      have drawing : Runs hub (acquire sensor .looking) hub (acquire sensor .drawing) :=
        .next .here (.letIn ended)
      simp only [Bool.false_eq_true, if_false]
      cases route : hub.route? sensor.transport with
      | none => exact .next drawing (.unsupported route)
      | some index =>
          have opening := Runs.next drawing (.draw route)
          simp only
          cases opened : hub.drawHandle.2.openAt index sensor hub.drawHandle.1 with
          | mk result later =>
              cases result with
              | error error => exact .next opening (.fail opened)
              | ok link => exact .next (.next opening (.open opened)) .store

theorem of_release (handle : Handle) :
    Runs hub (release handle .removing) (hub.release handle).2
      (release handle (.answered (hub.release handle).1)) := by
  rw [Hub.release]
  cases holds : hub.holds handle with
  | true => exact .next .here (.remove holds)
  | false => exact .next .here (.deny holds)

/-- Shutting down comes to what `shutdown` says, as far as the listing comes to its end. -/
theorem of_shutdown (absent : hub.shutdown.lister = .absent) :
    ∃ emptied : Bool,
      Runs hub (shutdown .marking) hub.shutdown (shutdown (.returned emptied)) := by
  rw [Hub.shutdown] at absent ⊢
  cases ended : hub.isShutDown with
  | true => exact ⟨false, .next .here (.markAgain ended)⟩
  | false =>
      simp only [ended, Bool.false_eq_true, if_false] at absent ⊢
      have joining := Runs.next (.next (.next .here (.mark ended)) .close) .empty
      exact ⟨true, .next (.upkeep joining (Hub.kept_calm _)) (.join absent)⟩

end Runs

end HubCall

end SensorStream
