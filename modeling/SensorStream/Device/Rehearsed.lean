import SensorStream.Device.Backend

/-!
# Rehearsed back ends

A back end whose answers were written down in advance.  Its listing can be held
back at a gate until the gate is opened.
-/

namespace SensorStream

/-- What a rehearsed back end will answer. -/
structure RehearsedBackend where
  transport : Transport
  listing : Except ClientError (List Descriptor)
  /-- Results of the openings to come, with the number of empty measurements that
  each publishes at once.  When they are used up, openings succeed and publish
  none. -/
  openings : List (Except AcquireError Nat)
  gateOpen : Bool

namespace RehearsedBackend

/-- Publish so many empty measurements, the frames numbered from the given one. -/
def publishEmpty (handle : Handle) : Nat → UInt32 → EventQueue → EventQueue
  | 0, _, queue => queue
  | count + 1, frame, queue =>
      publishEmpty handle count (frame + 1)
        (queue.publish (.measured handle { Sample.zero with frame := frame })).2

/-- Open a link as written down. -/
def openLink (backend : RehearsedBackend) (handle : Handle) (queue : EventQueue) :
    Except AcquireError Link × EventQueue × RehearsedBackend :=
  match backend.openings with
  | [] => (.ok (.rehearsed backend.transport), queue, backend)
  | .error error :: later => (.error error, queue, { backend with openings := later })
  | .ok count :: later =>
      (.ok (.rehearsed backend.transport), publishEmpty handle count 0 queue,
        { backend with openings := later })

instance : Backend RehearsedBackend where
  transport backend := backend.transport
  listDevices backend := if backend.gateOpen then some backend.listing else none
  openLink _ handle queue backend := backend.openLink handle queue

end RehearsedBackend

end SensorStream
