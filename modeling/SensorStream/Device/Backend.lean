import SensorStream.Error
import SensorStream.EventQueue
import SensorStream.Device.Generator

/-!
# Back ends

A back end is a transport at work: it lists the sensors that can be reached over
it and opens links to them.  A link stays open until it is given up.  It may go
on publishing measurements of its own for as long.
-/

namespace SensorStream

/-- An open connection to one sensor, as its back end sees it. -/
inductive Link where
  /-- A connection to a hardware bridge. -/
  | bridge (transport : Transport)
  | simulated (generator : Generator)
  /-- A connection that a rehearsed back end has opened. -/
  | rehearsed (transport : Transport)
  deriving Repr

namespace Link

def transport : Link → Transport
  | bridge transport => transport
  | simulated _ => .simulated
  | rehearsed transport => transport

end Link

/-- A state of a back end answers each request. -/
class Backend (System : Type) where
  transport : System → Transport
  /-- List the sensors that can be reached, unless the listing has to wait. -/
  listDevices : System → Option (Except ClientError (List Descriptor))
  /-- Open a link that publishes under a handle into a queue. -/
  openLink : Descriptor → Handle → EventQueue → System →
    Except AcquireError Link × EventQueue × System

end SensorStream
