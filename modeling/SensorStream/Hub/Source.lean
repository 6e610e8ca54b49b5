import SensorStream.Device.AnyBackend
import SensorStream.Hub.State
import SensorStream.Source.EventSource

/-!
# A hub as an event source

Whole requests to a hub, made of its single steps, for a caller that nobody
interrupts.  The listing goes on by itself: after every request it has come as
far as it can, which is when it is over, when the queue is full, or when a back
end keeps it waiting.  Simulated sensors publish as time passes.
-/

namespace SensorStream.Hub

variable {System : Type} [Backend System]

/-! ## Letting the listing get on -/

/-- How many events the back ends from this number on will still bring, as far as
none of them keeps the listing waiting. -/
def eventsAhead (total : Nat) : Nat → List System → Nat
  | _, [] => 0
  | index, system :: later =>
      match Backend.listDevices system with
      | none => 0
      | some result => (share total index result).length + eventsAhead total (index + 1) later

/-- How many events the listing will still bring. -/
def listingWork (hub : Hub System) : Nat :=
  let total := hub.systems.length
  match hub.lister with
  | .absent => 0
  | .scanning index => eventsAhead total index (hub.systems.drop index)
  | .publishing index events =>
      events.length + eventsAhead total (index + 1) (hub.systems.drop (index + 1))
  | .finishing => 0

/-- Let the listing get on for at most so many steps. -/
def listWithin : Nat → Hub System → Hub System
  | 0, hub => hub
  | steps + 1, hub =>
      match hub.listStep? with
      | none => hub
      | some next => listWithin steps next

/-- Let the listing get on as far as it can.  Apart from one step for each event it
takes two for each back end. -/
def calm (hub : Hub System) : Hub System :=
  hub.listWithin (hub.listingWork + 2 * hub.systems.length + 4)

/-! ## Requests -/

def list (hub : Hub System) : Except ClientError Unit × Hub System :=
  if hub.isShutDown then (.error .sourceClosed, hub)
  else if hub.listing then (.error (.listingFailed "listing already in progress"), hub)
  else (.ok (), hub.claimListing.startLister.calm)

def poll (hub : Hub System) : Except ClientError (Option Event) × Hub System :=
  let hub := hub.calm
  let (result, queue) := hub.queue.wait
  (result, { hub with queue := queue }.calm)

/-- Open a link to a sensor.  A handle is drawn before the back end is asked, so a
failed opening has used one up. -/
def acquire (sensor : Descriptor) (hub : Hub System) :
    Except AcquireError Handle × Hub System :=
  if hub.isShutDown then (.error .sourceClosed, hub)
  else match hub.route? sensor.transport with
    | none => (.error (.unsupportedTransport sensor.transport.key), hub)
    | some index =>
        let (handle, hub) := hub.drawHandle
        match hub.openAt index sensor handle with
        | (.error error, hub) => (.error error, hub)
        | (.ok link, hub) => (.ok handle, hub.hold handle link)

def release (handle : Handle) (hub : Hub System) : Except ClientError Unit × Hub System :=
  if hub.holds handle then (.ok (), hub.letGo handle) else (.error (.unknownHandle handle), hub)

/-- Give up everything.  A second time changes nothing. -/
def shutdown (hub : Hub System) : Hub System :=
  if hub.isShutDown then hub else hub.markShutDown.closeQueue.letAllGo.calm

/-! ## Time -/

/-- The time until the next simulated measurement, if one is to come. -/
def nextDue? (hub : Hub System) : Option Nat :=
  (hub.links.filterMap fun entry =>
    match entry.2 with
    | .simulated generator => generator.nextDue?
    | _ => none).min?

/-- Let time pass at the links. -/
def elapseLinks (span : Nat) :
    List (Handle × Link) → EventQueue → List (Handle × Link) × EventQueue
  | [], queue => ([], queue)
  | (handle, .simulated generator) :: later, queue =>
      let (generator, queue) := generator.elapse span queue
      let (later, queue) := elapseLinks span later queue
      ((handle, .simulated generator) :: later, queue)
  | entry :: later, queue =>
      let (later, queue) := elapseLinks span later queue
      (entry :: later, queue)

def elapse (span : Nat) (hub : Hub System) : Hub System :=
  let (links, queue) := elapseLinks span hub.links hub.queue
  { hub with links := links, queue := queue }.calm

/-- Let time pass until the next simulated measurement, if it is due within the
budget.  Publishing one takes a nanosecond at least. -/
def advance (budget : Nat) (hub : Hub System) : Option (Elapsed budget (Hub System)) :=
  match hub.nextDue? with
  | none => none
  | some due =>
      let cost := max due 1
      if enough : cost ≤ budget then
        some ⟨budget - cost, by omega, hub.elapse cost⟩
      else none

/-- Wait for the next event for at most `budget` nanoseconds. -/
def waitWithin (budget : Nat) (hub : Hub System) :
    Except ClientError (Option Event) × Hub System :=
  match hub.poll with
  | (.ok none, hub) =>
      match hub.advance budget with
      | none => (.ok none, hub)
      | some elapsed => elapsed.world.waitWithin elapsed.left
  | (result, hub) => (result, hub)
termination_by budget
decreasing_by exact elapsed.left_lt

instance : EventSource (Hub System) where
  list := list
  wait hub :=
    match hub.poll with
    | (.ok (some event), hub) => (.event event, hub)
    | (.ok none, hub) => (.nothing, hub)
    | (.error error, hub) => (.failed error, hub)
  acquire := acquire
  release := release
  shutdown := shutdown
  advance := advance
  backlog hub := if hub.queue.closed then 1 else hub.queue.pending.length + hub.listingWork

/-- A hub over the back ends of a set of transports. -/
def ofInterfaces (hardware : Hardware) (interfaces : TransportSet) :
    Except ClientError (Hub AnyBackend) :=
  create (AnyBackend.ofInterfaces hardware interfaces) EventQueue.defaultCapacity

end SensorStream.Hub
