import SensorStream.Foreign.Library
import SensorStream.Proofs.Findings
import SensorStream.Proofs.OpeningRequests
import SensorStream.Proofs.Passage
import SensorStream.Proofs.TextForms

/-!
# What a listing writes for a foreign program

A foreign program hands over an array and how much room it has.  A listing that is successful tells
how many sensors were discovered, and writes as many of them as there is room for over the front of
the array, in the order of discovery.  Each text of a record is cut off where its field ends, with
at least one zero byte after it.
-/

namespace SensorStream.Foreign

/-! ## Fields -/

/-- A field of this size holds a text: its first bytes, as far as one byte is left, and zeros. -/
structure Holds (size : Nat) (text : String) (field : List UInt8) : Prop where
  length : field.length = size
  kept : ∀ index : Nat, index < min text.utf8ByteSize (size - 1) →
    field[index]? = text.toByteArray.data[index]?
  filled : ∀ index : Nat, min text.utf8ByteSize (size - 1) ≤ index → index < size →
    field[index]? = some 0
  terminated : 0 ∈ field

theorem holds_fixedText {size : Nat} (positive : 0 < size) (text : String) :
    Holds size text (fixedText size text) := by
  have length : (text.toUTF8.toList.take (size - 1)).length =
      min text.utf8ByteSize (size - 1) := by
    rw [List.length_take, Text.toList_toUTF8, Nat.min_comm]
    rfl
  have filled (index : Nat) (beyond : min text.utf8ByteSize (size - 1) ≤ index)
      (within : index < size) : (fixedText size text)[index]? = some 0 := by
    rw [fixedText, List.getElem?_append_right (length ▸ beyond), length,
      List.getElem?_replicate_of_lt (by omega)]
  refine ⟨length_fixedText size positive text, ?_, filled, ?_⟩
  · intro index within
    rw [fixedText, List.getElem?_append_left (length ▸ within),
      List.getElem?_take_of_lt (by omega), Text.toList_toUTF8, Array.getElem?_toList]
  · exact List.mem_of_getElem? (filled (size - 1) (Nat.min_le_right _ _) (by omega))

/-- A record tells of a sensor. -/
structure SensorRecord.Describes (record : SensorRecord) (sensor : Descriptor) : Prop where
  name : Holds 256 sensor.name record.name
  identifier : Holds 64 sensor.identifier record.identifier
  transport : record.transport = sensor.transport
  address : Holds 128 sensor.address record.address

theorem SensorRecord.describes_ofDescriptor (sensor : Descriptor) :
    (SensorRecord.ofDescriptor sensor).Describes sensor where
  name := holds_fixedText (by decide) sensor.name
  identifier := holds_fixedText (by decide) sensor.identifier
  transport := rfl
  address := holds_fixedText (by decide) sensor.address

/-! ## Arrays -/

section Arrays

variable {Cell : Type} {written array : List Cell} {index : Nat}

theorem getElem?_overwrite_of_lt (within : index < written.length) :
    (overwrite written array)[index]? = written[index]? :=
  List.getElem?_append_left within

theorem getElem?_overwrite_of_le (beyond : written.length ≤ index) :
    (overwrite written array)[index]? = array[index]? := by
  rw [overwrite, List.getElem?_append_right beyond, List.getElem?_drop, Nat.add_sub_cancel' beyond]

theorem length_overwrite (room : written.length ≤ array.length) :
    (overwrite written array).length = array.length := by
  rw [overwrite, List.length_append, List.length_drop, Nat.add_sub_cancel' room]

end Arrays

/-! ## Listings -/

namespace Session

/-- A listing tells of these sensors, to a program whose array has this much room or is null. -/
structure Listing.Copies (listing : Listing) (sensors : List Descriptor) (room : Int)
    (arrayIsNull : Bool) : Prop where
  /-- All sensors are counted, whether there was room for them or not. -/
  code : listing.code = sensors.length
  /-- As far as there is room, each sensor is in the array at its place. -/
  written : arrayIsNull = false → ∀ (array : List SensorRecord) (index : Nat) (sensor : Descriptor),
    sensors[index]? = some sensor → (index : Int) < room →
      ∃ record : SensorRecord, (overwrite listing.records array)[index]? = some record ∧
        record.Describes sensor
  /-- The array is as it was where no sensor is written. -/
  untouched : ∀ (array : List SensorRecord) (index : Nat),
    arrayIsNull = true ∨ sensors.length ≤ index ∨ room ≤ index →
      (overwrite listing.records array)[index]? = array[index]?
  /-- Nothing is written past the end of an array that has the room that it was said to have. -/
  bounded : ∀ array : List SensorRecord, room.toNat ≤ array.length →
    (overwrite listing.records array).length = array.length

theorem toWord32_of_lt {number : Nat} (small : number < Nat.pow 2 31) :
    toWord32 number = (number : Int) := by
  have small : number < 2147483648 := small
  change (number : Int).bmod 4294967296 = number
  rw [Int.bmod_def]
  split <;> omega

theorem copies_recordsFor {sensors : List Descriptor} (few : sensors.length < Nat.pow 2 31)
    (room : Int) (arrayIsNull : Bool) :
    (Listing.mk (toWord32 sensors.length) (recordsFor sensors room arrayIsNull)).Copies sensors room
      arrayIsNull := by
  have extent : (recordsFor sensors room arrayIsNull).length =
      if arrayIsNull then 0 else min room.toNat sensors.length := by
    rw [recordsFor]
    cases arrayIsNull <;> simp
  constructor
  case code => simp only [toWord32_of_lt few]
  case written =>
    rintro rfl array index sensor listed within
    have counted : index < sensors.length := (List.getElem?_eq_some_iff.1 listed).1
    have fits : index < room.toNat := by omega
    refine ⟨.ofDescriptor sensor, ?_, SensorRecord.describes_ofDescriptor sensor⟩
    rw [getElem?_overwrite_of_lt (extent ▸ Nat.lt_min.2 ⟨fits, counted⟩)]
    simp only [recordsFor, Bool.false_eq_true, if_false, List.getElem?_map,
      List.getElem?_take_of_lt fits, listed, Option.map_some]
  case untouched =>
    intro array index beyond
    refine getElem?_overwrite_of_le ?_
    simp only [extent]
    split
    · exact Nat.zero_le index
    · rename_i present
      have outside : sensors.length ≤ index ∨ room ≤ index := beyond.resolve_left present
      omega
  case bounded =>
    intro array room
    refine length_overwrite ?_
    simp only [extent]
    split <;> omega

/-- The client of a session has started a discovery and has found these sensors, or none. -/
def Finds (schedule : Schedule (Hub AnyBackend)) (session : Session) (sensors : List Descriptor)
    (later : HubClient) : Prop :=
  ∃ first started : HubClient, session.client? = some first ∧
    first.start schedule = (.ok (), started) ∧
      (started.awaitDiscovery schedule = (.ok sensors, later) ∨
        sensors = [] ∧ started.awaitDiscovery schedule = (.error (.error .noSensorFound), later))

variable {schedule : Schedule (Hub AnyBackend)} {session : Session} {sensors : List Descriptor}
  {later : HubClient}

/-- What was found are the sensors of the tracker, in the order in which it has recorded them. -/
theorem Finds.known (finds : session.Finds schedule sensors later) :
    later.sensors = sensors ∧ later.tracker.sensors? = some sensors := by
  rcases finds with ⟨first, started, _, starts, waits⟩
  have waiting : started.state = .discovering ∧ started.Attended := by
    have passage := first.passage_meet schedule .start
    rw [Client.meet, starts] at passage
    change first.Passage schedule .start (.ok .started) started at passage
    cases passage with
    | start _ _ attended => exact ⟨rfl, attended⟩
  rcases waiting with ⟨state, scene, working, _⟩
  rcases Client.awaitDiscovery_cases working state with
      ⟨known, last, complete, concludes⟩ | ⟨mishap, last, missed, _, other⟩
  · rw [concludes] at waits
    rcases waits with waits | ⟨rfl, waits⟩
    · rw [Client.concludeDiscovery] at waits
      split at waits <;> cases waits
      exact ⟨rfl, complete⟩
    · rw [Client.concludeDiscovery] at waits
      split at waits <;> cases waits
      rename_i empty
      have none : known = [] := List.isEmpty_iff.1 empty
      exact ⟨none, none ▸ complete⟩
  · rw [missed] at waits
    rcases waits with waits | ⟨rfl, waits⟩
    · cases waits
    · cases waits
      exact absurd rfl other

theorem listSensors_of_finds (finds : session.Finds schedule sensors later) (room : Int)
    (arrayIsNull : Bool) :
    session.listSensors schedule room arrayIsNull =
      (.listing ⟨toWord32 sensors.length, recordsFor sensors room arrayIsNull⟩,
        { session with client? := some later }) := by
  rcases finds with ⟨first, started, present, starts, waits⟩
  rw [listSensors, present]
  simp only [starts]
  rcases waits with waits | ⟨rfl, waits⟩
  · simp only [waits]
  · have nothing : recordsFor [] room arrayIsNull = [] := by
      cases arrayIsNull <;> simp [recordsFor]
    simp only [waits, nothing]
    rfl

theorem finds_of_success {room : Int} {arrayIsNull : Bool} {listing : Listing} {after : Session}
    (listed : session.listSensors schedule room arrayIsNull = (.listing listing, after))
    (success : listing.code ≠ failure) :
    ∃ (sensors : List Descriptor) (later : HubClient), session.Finds schedule sensors later ∧
      after = { session with client? := some later } := by
  rcases present : session.client? with _ | first
  · rw [listSensors, present] at listed
    cases listed
    exact absurd rfl success
  rcases starts : first.start schedule with ⟨error | _, started⟩
  · simp only [listSensors, present, starts] at listed
    cases listed
    exact absurd rfl success
  rcases waits : started.awaitDiscovery schedule with ⟨mishap | sensors, later⟩
  · simp only [listSensors, present, starts, waits] at listed
    -- Of all mishaps only the want of sensors makes a listing that is successful.
    split at listed
    case h_1 found => cases found
    case h_2 found =>
      cases found
      exact ⟨[], later, ⟨first, started, present, starts, .inr ⟨rfl, waits⟩⟩,
        (congrArg Prod.snd listed).symm⟩
    case h_3 =>
      cases listed
      exact absurd rfl success
    case h_4 => cases listed
  · simp only [listSensors, present, starts, waits] at listed
    exact ⟨sensors, later, ⟨first, started, present, starts, .inl waits⟩,
      (congrArg Prod.snd listed).symm⟩

/-- What a listing comes to. -/
structure Copying (schedule : Schedule (Hub AnyBackend)) (session : Session) (room : Int)
    (arrayIsNull : Bool) : Prop where
  /-- It is successful if sensors were found, or none, and copies what was found. -/
  found : ∀ (sensors : List Descriptor) (later : HubClient),
    session.Finds schedule sensors later → sensors.length < Nat.pow 2 31 →
      ∃ listing : Listing, session.listSensors schedule room arrayIsNull =
          (.listing listing, { session with client? := some later }) ∧
        listing.code ≠ failure ∧ listing.Copies sensors room arrayIsNull
  /-- Otherwise it is not. -/
  successful : ∀ (listing : Listing) (after : Session),
    session.listSensors schedule room arrayIsNull = (.listing listing, after) →
      listing.code ≠ failure →
        ∃ (sensors : List Descriptor) (later : HubClient), session.Finds schedule sensors later ∧
          after = { session with client? := some later }
  /-- What was found is what the client has discovered. -/
  discovered : ∀ (sensors : List Descriptor) (later : HubClient),
    session.Finds schedule sensors later →
      later.sensors = sensors ∧ later.tracker.sensors? = some sensors

/-- Whatever was discovered, and whatever array is handed over, a listing that is successful counts
all sensors and copies as many of them as there is room for. -/
theorem copying (schedule : Schedule (Hub AnyBackend)) (session : Session) (room : Int)
    (arrayIsNull : Bool) : session.Copying schedule room arrayIsNull where
  found sensors later finds few := by
    have copies := copies_recordsFor few room arrayIsNull
    refine ⟨_, listSensors_of_finds finds room arrayIsNull, ?_, copies⟩
    rw [copies.code, failure]
    omega
  successful _ _ := finds_of_success
  discovered _ _ := Finds.known

/-- Two sensors are plugged in. -/
def pairOfNodes : Hardware where
  hid := ⟨[sensorNode "/dev/hidraw0".toByteArray "0001" none,
    sensorNode "/dev/hidraw1".toByteArray "0002" none]⟩
  usb := ⟨[], none⟩

def ofPair : Session :=
  fresh.init pairOfNodes (.ofList []) 1

def codeOf (reply : DiscoveryReply) : Option Int :=
  match reply with
  | .listing listing => some listing.code
  | .deadlineOverflow => none

/-- Both sensors are counted where there is room for one. -/
theorem copies_of_pair :
    ∃ (sensors : List Descriptor) (later : HubClient) (listing : Listing),
      ofPair.Finds .patient sensors later ∧ sensors.length = 2 ∧
        (ofPair.listSensors .patient 1 false).1 = .listing listing ∧
          listing.Copies sensors 1 false := by
  have laws := copying .patient ofPair 1 false
  have code : codeOf (ofPair.listSensors .patient 1 false).1 = some 2 := by decide +kernel
  have count : ((ofPair.listSensors .patient 1 false).2.client?.map fun client =>
      client.sensors.length) = some 2 := by decide +kernel
  rcases listed : ofPair.listSensors .patient 1 false with ⟨listing | _, after⟩
  · rw [listed] at code count
    have success : listing.code ≠ failure := by
      rw [Option.some.inj code]
      decide
    rcases laws.successful listing after listed success with ⟨sensors, later, finds, rfl⟩
    have two : sensors.length = 2 := by
      rw [← (laws.discovered sensors later finds).1]
      exact Option.some.inj count
    have few : sensors.length < Nat.pow 2 31 := by
      rw [two]
      decide
    rcases laws.found sensors later finds few with ⟨same, again, _, copies⟩
    cases listed.symm.trans again
    exact ⟨sensors, later, listing, finds, two, rfl, copies⟩
  · rw [listed] at code
    cases code

end Session

end SensorStream.Foreign
