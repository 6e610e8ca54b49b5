import SensorStream.Device.Backend

/-!
# The state of a hub

A hub joins several back ends into one source of events.  All of them publish
into one queue.  The hub holds the links that were opened through it, each under
a handle of its own; handles are drawn in ascending order and never used again.

Every function of this module does one thing at one instant.  Whole requests,
which others may interrupt between these instants, are made of them.
-/

namespace SensorStream

/-- Where the listing of a discovery cycle is. -/
inductive Lister where
  | absent
  /-- The back end with this number is to be listed next. -/
  | scanning (index : Nat)
  /-- The events of the back end with this number are being published. -/
  | publishing (index : Nat) (events : List Event)
  /-- All is published, or the queue was found closed. -/
  | finishing
  deriving Repr

/-- Several back ends behind one queue. -/
structure Hub (System : Type) where
  queue : EventQueue
  systems : List System
  /-- Whether a listing was started that is not over. -/
  listing : Bool
  lister : Lister
  /-- The open links with their handles, in the order of opening. -/
  links : List (Handle × Link)
  /-- The links that were given up, in the order of giving up. -/
  closedLinks : List (Handle × Link)
  nextHandle : Handle
  isShutDown : Bool

namespace Hub

variable {System : Type}

/-- A hub over back ends, with room in its queue for so many events.  Without any
back end it would be of no use. -/
def create (systems : List System) (capacity : Nat) : Except ClientError (Hub System) :=
  if systems.isEmpty then .error (.initFailed "no IO system available")
  else
    .ok
      { queue := .withCapacity capacity
        systems := systems
        listing := false
        lister := .absent
        links := []
        closedLinks := []
        nextHandle := ⟨1⟩
        isShutDown := false }

def connected (hub : Hub System) : Nat :=
  hub.links.length

def updateSystems (hub : Hub System) (change : System → System) : Hub System :=
  { hub with systems := hub.systems.map change }

/-! ## Links -/

/-- The number of the first back end with this transport. -/
def route? [Backend System] (hub : Hub System) (transport : Transport) : Option Nat :=
  hub.systems.findIdx? fun system => Backend.transport system == transport

def drawHandle (hub : Hub System) : Handle × Hub System :=
  (hub.nextHandle, { hub with nextHandle := ⟨hub.nextHandle.number + 1⟩ })

/-- Let a back end open a link under a handle. -/
def openAt [Backend System] (hub : Hub System) (index : Nat) (sensor : Descriptor)
    (handle : Handle) : Except AcquireError Link × Hub System :=
  match hub.systems[index]? with
  | none => (.error (.unsupportedTransport sensor.transport.key), hub)
  | some system =>
      let (result, queue, system) := Backend.openLink sensor handle hub.queue system
      (result, { hub with queue := queue, systems := hub.systems.set index system })

def hold (hub : Hub System) (handle : Handle) (link : Link) : Hub System :=
  { hub with links := hub.links ++ [(handle, link)] }

def holds (hub : Hub System) (handle : Handle) : Bool :=
  hub.links.any fun entry => entry.1 = handle

def letGo (hub : Hub System) (handle : Handle) : Hub System :=
  { hub with
    links := hub.links.filter fun entry => entry.1 ≠ handle
    closedLinks := hub.closedLinks ++ hub.links.filter fun entry => entry.1 = handle }

def letAllGo (hub : Hub System) : Hub System :=
  { hub with links := [], closedLinks := hub.closedLinks ++ hub.links }

/-! ## Shutting down -/

def markShutDown (hub : Hub System) : Hub System :=
  { hub with isShutDown := true }

def closeQueue (hub : Hub System) : Hub System :=
  { hub with queue := hub.queue.close }

/-! ## Listing -/

/-- How far a listing is after so many of all back ends. -/
def fraction (done total : Nat) : Float32 :=
  (UInt64.ofNat done).toFloat32 / (UInt64.ofNat total).toFloat32

/-- What a listing publishes about one back end: its sensors, none if it could not
be listed, and then how far the listing is. -/
def share (total index : Nat) (result : Except ClientError (List Descriptor)) : List Event :=
  let sensors :=
    match result with
    | .ok sensors => sensors
    | .error _ => []
  sensors.map Event.found ++ [.progress (fraction (index + 1) total)]

def claimListing (hub : Hub System) : Hub System :=
  { hub with listing := true }

def startLister (hub : Hub System) : Hub System :=
  { hub with lister := .scanning 0 }

/-- The next step of the listing, unless there is none or it has to wait. -/
def listStep? [Backend System] (hub : Hub System) : Option (Hub System) :=
  match hub.lister with
  | .absent => none
  | .scanning index =>
      match hub.systems[index]? with
      | none => some { hub with lister := .finishing }
      | some system =>
          (Backend.listDevices system).map fun result =>
            { hub with lister := .publishing index (share hub.systems.length index result) }
  | .publishing index [] => some { hub with lister := .scanning (index + 1) }
  | .publishing index (event :: later) =>
      match hub.queue.publish event with
      | (.held, _) => none
      | (.refused, _) => some { hub with lister := .finishing }
      | (_, queue) => some { hub with queue := queue, lister := .publishing index later }
  | .finishing => some { hub with listing := false, lister := .absent }

end Hub

end SensorStream
