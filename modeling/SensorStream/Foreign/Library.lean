import SensorStream.Client.Run
import SensorStream.Foreign.Record
import SensorStream.Hub.Source

/-!
# Calls from foreign programs

Foreign programs hold a client by a pointer, which may be null, and get numbers
back: zero or a count for success and -1 for failure.  What went wrong is
remembered in one place for the whole process, where it can be read afterwards.

A call with a null pointer, or with an argument that is refused at once, fails
without anything being remembered.
-/

namespace SensorStream.Foreign

abbrev HubClient :=
  Client (Hub AnyBackend)

/-- What outlives a call: the client behind the pointer, unless the pointer is
null, and the last failure of the process. -/
structure Session where
  client? : Option HubClient
  lastError : LastError

namespace Session

/-- No client, and no failure so far. -/
def fresh : Session :=
  ⟨none, .clear⟩

def failure : Int :=
  -1

def fail (client : HubClient) (error : ClientError) : Session :=
  ⟨some client, .set error⟩

/-- Create a client over the back ends that the bits name; no bits stand for all
hardware.  The other settings come from the environment. -/
def init (session : Session) (hardware : Hardware) (environment : Environment) (bits : UInt32) :
    Session :=
  let asked := TransportSet.ofBits bits
  let interfaces := if asked.isEmpty then .hardware else asked
  let config := { Config.ofEnvironment environment with interfaces := interfaces }
  match Hub.ofInterfaces hardware interfaces with
  | .ok hub => ⟨some (.new config hub), .clear⟩
  | .error error => { session with client? := none, lastError := .set error }

/-- The result of a listing: the number for the caller, and the records for the
front of the caller's array. -/
structure Listing where
  code : Int
  records : List SensorRecord

/-- A number as it fits into a signed 32-bit word. -/
def toWord32 (number : Nat) : Int :=
  (number : Int).bmod (Nat.pow 2 32)

/-- A number as it fits into a signed 64-bit word. -/
def toWord64 (number : Nat) : Int :=
  (number : Int).bmod (Nat.pow 2 64)

/-- The records for an array with room for `room` sensors; none if the array is
null. -/
def recordsFor (sensors : List Descriptor) (room : Int) (arrayIsNull : Bool) :
    List SensorRecord :=
  if arrayIsNull then [] else (sensors.take room.toNat).map SensorRecord.ofDescriptor

/-- How a discovery looks to the caller. -/
inductive DiscoveryReply where
  | listing (listing : Listing)
  /-- The clock has no reading for the deadline; the call does not return. -/
  | deadlineOverflow

def listSensors (schedule : Schedule (Hub AnyBackend)) (session : Session) (room : Int)
    (arrayIsNull : Bool) : DiscoveryReply × Session :=
  match session.client? with
  | none => (.listing ⟨failure, []⟩, session)
  | some client =>
      match client.start schedule with
      | (.error error, client) => (.listing ⟨failure, []⟩, fail client error)
      | (.ok (), client) =>
          match client.awaitDiscovery schedule with
          | (.ok sensors, client) =>
              (.listing ⟨toWord32 sensors.length, recordsFor sensors room arrayIsNull⟩,
                { session with client? := some client })
          | (.error (.error .noSensorFound), client) =>
              (.listing ⟨0, []⟩, { session with client? := some client })
          | (.error (.error error), client) => (.listing ⟨failure, []⟩, fail client error)
          | (.error .deadlineOverflow, client) =>
              (.deadlineOverflow, { session with client? := some client })

/-- Connect to the sensor with this number in the latest listing. -/
def obtainSensor (schedule : Schedule (Hub AnyBackend)) (session : Session) (index : Int) :
    Int × Session :=
  match session.client? with
  | none => (failure, session)
  | some client =>
      if index < 0 then (failure, session)
      else match client.connect schedule index.toNat with
        | (.ok handle, client) =>
            (toWord64 handle.number.toNat, { session with client? := some client })
        | (.error error, client) => (failure, fail client error)

/-- Take the next sample, waiting for it so many milliseconds. -/
def receiveSample (schedule : Schedule (Hub AnyBackend)) (session : Session)
    (milliseconds : Int) (recordIsNull : Bool) : Option StreamedSample × Session :=
  match session.client? with
  | none => (none, session)
  | some client =>
      if recordIsNull then (none, session)
      else match client.nextSample schedule (.ofMilliseconds milliseconds.toNat) with
        | (.ok sample, client) => (some sample, { session with client? := some client })
        | (.error error, client) => (none, fail client error)

/-- Shut the client down and give it up.  The hub of the client is handed back. -/
def shutdown (schedule : Schedule (Hub AnyBackend)) (session : Session) :
    Option (Hub AnyBackend) × Session :=
  let hub? := session.client?.map fun client => (client.drop schedule).source
  (hub?, { session with client? := none })

end Session

end SensorStream.Foreign
