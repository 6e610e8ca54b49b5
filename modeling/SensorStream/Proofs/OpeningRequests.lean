import Mathlib.Data.List.Nodup
import SensorStream.Device.AnyBackend
import SensorStream.Proofs.DeviceAddresses

/-!
# Which device is asked to open

A request to open a sensor asks at most one device.  The HID back end looks among the bridges for
one with the sensor's address, so what it opens is a sensor that a listing reports.  The USB back
end looks among all devices: whatever is at the address now is opened, be it a sensor or not.

As long as the devices stay the same, a sensor that was listed is the one that is opened, except
that all HID bridges without a readable path have one address, and the first of them is opened.
-/

namespace SensorStream

/-! ## Requests -/

/-- A device is the first one of which something holds. -/
def IsFirst {Device : Type} (devices : List Device) (wanted : Device → Prop) (device : Device) :
    Prop :=
  ∃ before after : List Device, devices = before ++ device :: after ∧ wanted device ∧
    ∀ other ∈ before, ¬wanted other

namespace IsFirst

variable {Device : Type} {devices : List Device} {wanted : Device → Prop} {device : Device}

theorem mem (first : IsFirst devices wanted device) : device ∈ devices := by
  rcases first with ⟨before, after, rfl, _⟩
  exact List.mem_append_right _ List.mem_cons_self

theorem holds (first : IsFirst devices wanted device) : wanted device := by
  rcases first with ⟨_, _, _, holds, _⟩
  exact holds

theorem find?_eq_some_iff [DecidablePred wanted] :
    (devices.find? fun device => wanted device) = some device ↔
      IsFirst devices wanted device := by
  simp only [List.find?_eq_some_iff_append, IsFirst, Bool.not_eq_true', decide_eq_true_eq,
    decide_eq_false_iff_not]
  constructor
  · rintro ⟨holds, before, after, split, others⟩
    exact ⟨before, after, split, holds, others⟩
  · rintro ⟨before, after, split, holds, others⟩
    exact ⟨holds, before, after, split, others⟩

theorem exists_find?_eq_some [DecidablePred wanted] (member : device ∈ devices)
    (holds : wanted device) :
    ∃ first : Device, (devices.find? fun device => wanted device) = some first :=
  Option.isSome_iff_exists.1 (List.find?_isSome.2 ⟨device, member, decide_eq_true holds⟩)

end IsFirst

/-- How a request to open a sensor ends, and which device was asked: the devices cannot be
enumerated, none of them is meant, or the one that is meant gives the answer. -/
inductive Opening {Device : Type} (failure? : Option String)
    (openDevice : Device → Except AcquireError Link) (sensor : Descriptor) :
    Option Device → Except AcquireError Link → Prop where
  | unavailable {report : String} : failure? = some report →
      Opening failure? openDevice sensor none (.error (.io report))
  | unknown : failure? = none →
      Opening failure? openDevice sensor none (.error (.unknownSensor sensor.identifier))
  | asked (device : Device) : failure? = none →
      Opening failure? openDevice sensor (some device) (openDevice device)

theorem Opening.answer_eq {Device : Type} {failure? : Option String}
    {openDevice : Device → Except AcquireError Link} {sensor : Descriptor} {device : Device}
    {answer : Except AcquireError Link}
    (opening : Opening failure? openDevice sensor (some device) answer) :
    answer = openDevice device := by
  cases opening
  rfl

/-- A listing reports a sensor with this address. -/
def Reports (listing : Except ClientError (List Descriptor)) (address : String) : Prop :=
  ∃ listed : List Descriptor, listing = .ok listed ∧
    ∃ descriptor ∈ listed, descriptor.address = address

/-! ## The HID back end -/

namespace HidBackend

/-- No two nodes have the same path. -/
def PathsApart (backend : HidBackend) : Prop :=
  (backend.nodes.map HidNode.path).Nodup

variable {backend : HidBackend} {sensor : Descriptor} {node : HidNode}

theorem mem_bridges : node ∈ backend.bridges ↔ node ∈ backend.nodes ∧ node.isBridge = true :=
  List.mem_filter

theorem target?_eq_some_iff : backend.target? sensor = some node ↔
    ∃ bridge : HidNode,
      IsFirst backend.bridges (fun bridge => bridge.address = sensor.address) bridge ∧
        IsFirst backend.nodes (fun node => node.path = bridge.path) node := by
  rw [target?, Option.bind_eq_some_iff]
  exact exists_congr fun bridge => and_congr IsFirst.find?_eq_some_iff IsFirst.find?_eq_some_iff

/-- Some node is asked exactly if a bridge has the address. -/
theorem exists_target?_iff : (∃ node : HidNode, backend.target? sensor = some node) ↔
    ∃ bridge ∈ backend.bridges, bridge.address = sensor.address := by
  constructor
  · rintro ⟨node, targeted⟩
    rcases target?_eq_some_iff.1 targeted with ⟨bridge, first, _⟩
    exact ⟨bridge, first.mem, first.holds⟩
  · rintro ⟨bridge, member, same⟩
    have found : ∃ meant : HidNode, backend.find? sensor = some meant :=
      IsFirst.exists_find?_eq_some member same
    rcases found with ⟨meant, found⟩
    have first := IsFirst.find?_eq_some_iff.1 found
    have there : ∃ node : HidNode, backend.nodeAt? meant.path = some node :=
      IsFirst.exists_find?_eq_some (mem_bridges.1 first.mem).1 rfl
    rcases there with ⟨node, there⟩
    exact ⟨node, target?_eq_some_iff.2 ⟨meant, first, IsFirst.find?_eq_some_iff.1 there⟩⟩

/-- If paths tell nodes apart, the node that is asked is the bridge that was looked for. -/
theorem target?_iff_isFirst (apart : backend.PathsApart) : backend.target? sensor = some node ↔
    IsFirst backend.bridges (fun bridge => bridge.address = sensor.address) node := by
  have forward {node : HidNode} (targeted : backend.target? sensor = some node) :
      IsFirst backend.bridges (fun bridge => bridge.address = sensor.address) node := by
    rcases target?_eq_some_iff.1 targeted with ⟨bridge, first, there⟩
    have same : node = bridge :=
      List.inj_on_of_nodup_map apart there.mem (mem_bridges.1 first.mem).1 there.holds
    exact same ▸ first
  refine ⟨forward, fun first => ?_⟩
  rcases exists_target?_iff.2 ⟨node, first.mem, first.holds⟩ with ⟨other, targeted⟩
  have found := IsFirst.find?_eq_some_iff.2 (forward targeted)
  rw [IsFirst.find?_eq_some_iff.2 first] at found
  cases found
  exact targeted

end HidBackend

namespace HidStack

/-- The node that a request asks to open, if it asks any. -/
def target? (stack : HidStack) (sensor : Descriptor) : Option HidNode :=
  match stack.failure? with
  | some _ => none
  | none => stack.backend.target? sensor

variable {stack : HidStack} {sensor : Descriptor} {node : HidNode}

theorem target?_eq_some_iff : stack.target? sensor = some node ↔
    stack.failure? = none ∧ stack.backend.target? sensor = some node := by
  rw [target?]
  cases stack.failure? <;> simp

theorem opening_openLink (stack : HidStack) (sensor : Descriptor) :
    Opening (stack.failure?.map fun report => (ClientError.hid report).message) HidNode.openLink
      sensor (stack.target? sensor) (stack.openLink sensor) := by
  rw [openLink, target?]
  cases stack.failure? with
  | some report => exact .unavailable rfl
  | none =>
      rw [HidBackend.openLink]
      cases stack.backend.target? sensor with
      | none => exact .unknown rfl
      | some node => exact .asked node rfl

theorem list_eq_ok_iff {listed : List Descriptor} : stack.list = .ok listed ↔
    stack.failure? = none ∧ stack.backend.bridges.map HidNode.describe = listed := by
  rw [list, HidBackend.list]
  cases stack.failure? <;> simp

theorem reports_iff {address : String} : Reports stack.list address ↔
    stack.failure? = none ∧ ∃ bridge ∈ stack.backend.bridges, bridge.address = address := by
  simp [Reports, list_eq_ok_iff, HidNode.describe]

/-- Whatever a request to the HID back end asks to open is a sensor. -/
structure Guarded (stack : HidStack) (sensor : Descriptor) : Prop where
  opening : Opening (stack.failure?.map fun report => (ClientError.hid report).message)
    HidNode.openLink sensor (stack.target? sensor) (stack.openLink sensor)
  /-- A node is asked exactly if a listing would report the address. -/
  reports_iff : (∃ node : HidNode, stack.target? sensor = some node) ↔
    Reports stack.list sensor.address
  /-- A bridge with the address has the path of the node. -/
  path : ∀ node : HidNode, stack.target? sensor = some node →
    ∃ bridge ∈ stack.backend.bridges, bridge.path = node.path ∧ bridge.address = sensor.address
  isBridge : stack.backend.PathsApart → ∀ node : HidNode, stack.target? sensor = some node →
    node.isBridge = true ∧ node.address = sensor.address

theorem guarded (stack : HidStack) (sensor : Descriptor) : stack.Guarded sensor where
  opening := stack.opening_openLink sensor
  reports_iff := by
    rw [HidStack.reports_iff, ← HidBackend.exists_target?_iff, ← exists_and_left]
    exact exists_congr fun node => target?_eq_some_iff
  path node targeted := by
    rcases HidBackend.target?_eq_some_iff.1 (target?_eq_some_iff.1 targeted).2 with
      ⟨bridge, first, there⟩
    exact ⟨bridge, first.mem, there.holds.symm, first.holds⟩
  isBridge apart node targeted := by
    have first := (HidBackend.target?_iff_isFirst apart).1 (target?_eq_some_iff.1 targeted).2
    exact ⟨(HidBackend.mem_bridges.1 first.mem).2, first.holds⟩

end HidStack

/-! ## The USB back end -/

namespace UsbBackend

/-- No two devices have both the same bus and the same address. -/
def PlacesApart (backend : UsbBackend) : Prop :=
  (backend.devices.map fun device => (device.bus, device.address)).Nodup

/-- The device that a request asks to open, if it asks any. -/
def target? (backend : UsbBackend) (sensor : Descriptor) : Option UsbDevice :=
  match backend.failure? with
  | some _ => none
  | none => backend.find? sensor

variable {backend : UsbBackend} {sensor : Descriptor} {device : UsbDevice}

theorem mem_bridges : device ∈ backend.bridges ↔
    device ∈ backend.devices ∧ device.isBridge = true :=
  List.mem_filter

theorem target?_eq_some_iff : backend.target? sensor = some device ↔
    backend.failure? = none ∧
      IsFirst backend.devices (fun device => device.location = sensor.address) device := by
  rw [target?]
  cases backend.failure? with
  | some cause => exact iff_of_false nofun nofun
  | none => exact IsFirst.find?_eq_some_iff.trans (and_iff_right rfl).symm

theorem opening_openLink (backend : UsbBackend) (sensor : Descriptor) :
    Opening (backend.failure?.map UsbError.message) UsbDevice.openLink sensor
      (backend.target? sensor) (backend.openLink sensor) := by
  rw [openLink, target?]
  cases backend.failure? with
  | some cause => exact .unavailable rfl
  | none =>
      cases backend.find? sensor with
      | none => exact .unknown rfl
      | some device => exact .asked device rfl

theorem list_eq_ok_iff {listed : List Descriptor} : backend.list = .ok listed ↔
    backend.failure? = none ∧ backend.bridges.map UsbDevice.describe = listed := by
  rw [list]
  cases backend.failure? <;> simp

theorem reports_iff {address : String} : Reports backend.list address ↔
    backend.failure? = none ∧ ∃ bridge ∈ backend.bridges, bridge.location = address := by
  simp [Reports, list_eq_ok_iff, UsbDevice.describe]

/-- If places tell devices apart, a location belongs to one device. -/
theorem eq_of_location (apart : backend.PlacesApart) {other : UsbDevice}
    (member : device ∈ backend.devices) (otherMember : other ∈ backend.devices)
    (same : device.location = other.location) : device = other :=
  List.inj_on_of_nodup_map apart member otherMember (UsbDevice.place_of_location same)

/-- A request to the USB back end asks whatever device is at the address. -/
structure Located (backend : UsbBackend) (sensor : Descriptor) : Prop where
  opening : Opening (backend.failure?.map UsbError.message) UsbDevice.openLink sensor
    (backend.target? sensor) (backend.openLink sensor)
  /-- It asks the first device with the address, and none only if there is none. -/
  target?_iff : ∀ device : UsbDevice, backend.target? sensor = some device ↔
    backend.failure? = none ∧
      IsFirst backend.devices (fun device => device.location = sensor.address) device
  missing : backend.failure? = none → (backend.target? sensor = none ↔
    ∀ device ∈ backend.devices, device.location ≠ sensor.address)
  reports : ∀ device : UsbDevice, backend.target? sensor = some device →
    device.isBridge = true → Reports backend.list sensor.address
  /-- The device is a sensor only if a listing would report the address. -/
  isBridge_iff : backend.PlacesApart → ∀ device : UsbDevice,
    backend.target? sensor = some device →
      (device.isBridge = true ↔ Reports backend.list sensor.address)

theorem located (backend : UsbBackend) (sensor : Descriptor) : backend.Located sensor := by
  have reports (device : UsbDevice) (targeted : backend.target? sensor = some device)
      (isBridge : device.isBridge = true) : Reports backend.list sensor.address := by
    rcases target?_eq_some_iff.1 targeted with ⟨available, first⟩
    exact reports_iff.2 ⟨available, device, mem_bridges.2 ⟨first.mem, isBridge⟩, first.holds⟩
  refine ⟨backend.opening_openLink sensor, fun _ => target?_eq_some_iff, ?_, reports, ?_⟩
  · intro available
    rw [target?, available]
    exact List.find?_eq_none.trans (forall₂_congr fun _ _ => not_congr decide_eq_true_iff)
  · intro apart device targeted
    refine ⟨reports device targeted, fun reported => ?_⟩
    rcases target?_eq_some_iff.1 targeted with ⟨_, first⟩
    rcases reports_iff.1 reported with ⟨_, bridge, member, there⟩
    rcases mem_bridges.1 member with ⟨plugged, isBridge⟩
    have same := eq_of_location apart plugged first.mem (there.trans first.holds.symm)
    exact same ▸ isBridge

end UsbBackend

/-- A mouse. -/
def strangeDevice : UsbDevice where
  bus := 1
  address := 2
  vendor := 0x046D
  product := 0xC077
  descriptorError? := none
  openError? := none
  languages := .ok [0x0409]
  productName := .absent
  serialNumber := .absent

/-- A sensor that was at the same place before it was unplugged. -/
def staleSensor : Descriptor :=
  ⟨"LPMS", "0001", .siUsb, "001:002"⟩

/-- What is opened need not be a sensor: a listing reports nothing at all here, and yet a link is
opened. -/
theorem UsbBackend.opens_strange_device :
    ¬∀ (backend : UsbBackend) (sensor : Descriptor) (link : Link),
      backend.openLink sensor = .ok link → Reports backend.list sensor.address := by
  intro always
  rcases always ⟨[strangeDevice], none⟩ staleSensor (.bridge .siUsb) rfl with
    ⟨_, ⟨⟩, descriptor, member, _⟩
  exact nomatch member

/-- Whatever devices there are and whatever a request asks for, it reaches at most one device: over
HID a sensor that a listing reports, over USB the first device with the address. -/
theorem Hardware.guarded_and_located (hardware : Hardware) (sensor : Descriptor) :
    hardware.hidStack.Guarded sensor ∧ hardware.usb.Located sensor :=
  ⟨hardware.hidStack.guarded sensor, hardware.usb.located sensor⟩

/-! ## Opening what was listed -/

namespace HidStack

/-- A listing reports this descriptor for this node. -/
structure Lists (stack : HidStack) (node : HidNode) (descriptor : Descriptor) : Prop where
  available : stack.failure? = none
  member : node ∈ stack.backend.bridges
  describes : descriptor = node.describe

/-- Which node is opened for a descriptor that was listed. -/
structure Returning (stack : HidStack) : Prop where
  lists_iff : ∀ listed : List Descriptor, stack.list = .ok listed →
    ∀ descriptor : Descriptor, descriptor ∈ listed ↔ ∃ node, stack.Lists node descriptor
  readable : ∀ (node : HidNode) (descriptor : Descriptor), stack.Lists node descriptor →
    ¬node.Unreadable → stack.target? descriptor = some node
  unreadable : ∀ (node : HidNode) (descriptor : Descriptor), stack.Lists node descriptor →
    node.Unreadable → ∃ first : HidNode,
      IsFirst stack.backend.bridges HidNode.Unreadable first ∧
        stack.target? descriptor = some first
  /-- The node itself is opened exactly if its path can be read or no path of an earlier bridge is
  unreadable as well. -/
  reached_iff : ∀ (node : HidNode) (descriptor : Descriptor), stack.Lists node descriptor →
    (stack.target? descriptor = some node ↔
      ¬node.Unreadable ∨ IsFirst stack.backend.bridges HidNode.Unreadable node)
  answer : ∀ (node : HidNode) (descriptor : Descriptor), stack.target? descriptor = some node →
    stack.openLink descriptor = node.openLink

theorem lists_iff {stack : HidStack} {listed : List Descriptor} (lists : stack.list = .ok listed)
    (descriptor : Descriptor) : descriptor ∈ listed ↔ ∃ node, stack.Lists node descriptor := by
  rcases list_eq_ok_iff.1 lists with ⟨available, rfl⟩
  rw [List.mem_map]
  constructor
  · rintro ⟨node, member, rfl⟩
    exact ⟨node, available, member, rfl⟩
  · rintro ⟨node, _, member, rfl⟩
    exact ⟨node, member, rfl⟩

/-- A readable path is found again by the address. -/
theorem Lists.target?_of_readable {stack : HidStack} {node : HidNode} {descriptor : Descriptor}
    (lists : stack.Lists node descriptor) (apart : stack.backend.PathsApart)
    (readable : ¬node.Unreadable) : stack.target? descriptor = some node := by
  rcases lists with ⟨available, member, rfl⟩
  have own : node.address = node.describe.address := rfl
  rcases HidBackend.exists_target?_iff.2 ⟨node, member, own⟩ with ⟨found, targeted⟩
  have first := (HidBackend.target?_iff_isFirst apart).1 targeted
  have same : found = node := by
    refine List.inj_on_of_nodup_map apart (HidBackend.mem_bridges.1 first.mem).1
      (HidBackend.mem_bridges.1 member).1 (Eq.symm ?_)
    exact HidNode.path_of_address (mt HidNode.address_eq_empty_iff.1 readable) first.holds.symm
  exact target?_eq_some_iff.2 ⟨available, same ▸ targeted⟩

/-- All unreadable paths have one address, and the first bridge with one is found. -/
theorem Lists.target?_iff_of_unreadable {stack : HidStack} {node first : HidNode}
    {descriptor : Descriptor} (lists : stack.Lists node descriptor)
    (apart : stack.backend.PathsApart) (unreadable : node.Unreadable) :
    stack.target? descriptor = some first ↔
      IsFirst stack.backend.bridges HidNode.Unreadable first := by
  rcases lists with ⟨available, member, rfl⟩
  have bare : node.describe.address = "" := HidNode.address_eq_empty_iff.2 unreadable
  have same : HidNode.Unreadable =
      fun bridge : HidNode => bridge.address = node.describe.address := by
    funext bridge
    rw [bare, HidNode.address_eq_empty_iff]
  rw [target?_eq_some_iff, and_iff_right available, HidBackend.target?_iff_isFirst apart, same]

theorem returning {stack : HidStack} (apart : stack.backend.PathsApart) : stack.Returning where
  lists_iff _ := lists_iff
  readable _ _ lists := lists.target?_of_readable apart
  unreadable node descriptor lists unreadable := by
    have own : node.address = node.describe.address := rfl
    rcases HidBackend.exists_target?_iff.2 ⟨node, lists.member, own⟩ with ⟨first, targeted⟩
    have found : stack.target? descriptor = some first :=
      target?_eq_some_iff.2 ⟨lists.available, lists.describes ▸ targeted⟩
    exact ⟨first, (lists.target?_iff_of_unreadable apart unreadable).1 found, found⟩
  reached_iff node descriptor lists := by
    by_cases unreadable : node.Unreadable
    · rw [lists.target?_iff_of_unreadable apart unreadable]
      exact (or_iff_right (not_not_intro unreadable)).symm
    · exact iff_of_true (lists.target?_of_readable apart unreadable) (.inl unreadable)
  answer node descriptor targeted :=
    (targeted ▸ stack.opening_openLink descriptor).answer_eq

end HidStack

namespace UsbBackend

/-- A listing reports this descriptor for this device. -/
structure Lists (backend : UsbBackend) (device : UsbDevice) (descriptor : Descriptor) : Prop where
  available : backend.failure? = none
  member : device ∈ backend.bridges
  describes : descriptor = device.describe

/-- The device that is opened for a descriptor that was listed is the one that it was listed
for. -/
structure Returning (backend : UsbBackend) : Prop where
  lists_iff : ∀ listed : List Descriptor, backend.list = .ok listed →
    ∀ descriptor : Descriptor, descriptor ∈ listed ↔ ∃ device, backend.Lists device descriptor
  reached : ∀ (device : UsbDevice) (descriptor : Descriptor), backend.Lists device descriptor →
    backend.target? descriptor = some device
  answer : ∀ (device : UsbDevice) (descriptor : Descriptor),
    backend.target? descriptor = some device → backend.openLink descriptor = device.openLink

theorem lists_iff {backend : UsbBackend} {listed : List Descriptor}
    (lists : backend.list = .ok listed) (descriptor : Descriptor) :
    descriptor ∈ listed ↔ ∃ device, backend.Lists device descriptor := by
  rcases list_eq_ok_iff.1 lists with ⟨available, rfl⟩
  rw [List.mem_map]
  constructor
  · rintro ⟨device, member, rfl⟩
    exact ⟨device, available, member, rfl⟩
  · rintro ⟨device, _, member, rfl⟩
    exact ⟨device, member, rfl⟩

theorem returning {backend : UsbBackend} (apart : backend.PlacesApart) : backend.Returning where
  lists_iff _ := lists_iff
  reached := by
    rintro device _ ⟨available, member, rfl⟩
    rcases mem_bridges.1 member with ⟨plugged, _⟩
    have there : ∃ found : UsbDevice, backend.find? device.describe = some found :=
      IsFirst.exists_find?_eq_some plugged rfl
    rcases there with ⟨found, there⟩
    have first := IsFirst.find?_eq_some_iff.1 there
    have same := eq_of_location apart first.mem plugged first.holds
    exact target?_eq_some_iff.2 ⟨available, same ▸ first⟩
  answer device descriptor targeted :=
    (targeted ▸ backend.opening_openLink descriptor).answer_eq

end UsbBackend

/-- A HID sensor that tells its serial number and no name. -/
def sensorNode (path : ByteArray) (serial : String) (openFailure? : Option String) :
    HidNode where
  path := path
  vendor := 0x10C4
  product := 0xEA80
  isReported := true
  productName? := none
  serial := serial.toByteArray
  openFailure? := openFailure?

/-- Two sensors without readable paths, of which only the second one can be opened. -/
def unreadableNodes : HidBackend :=
  ⟨[sensorNode ⟨#[]⟩ "0001" (some "No such file"), sensorNode ⟨#[0xFE]⟩ "0002" none]⟩

theorem pathsApart_unreadableNodes : unreadableNodes.PathsApart := by
  change [(⟨#[]⟩ : ByteArray), ⟨#[0xFE]⟩].Nodup
  decide

/-- A sensor that was listed need not be the one that is opened: the second of two sensors without
readable paths could be opened, but the first one is asked. -/
theorem HidStack.not_reached_of_unreadable :
    ¬∀ stack : HidStack, stack.backend.PathsApart →
      ∀ (node : HidNode) (descriptor : Descriptor), stack.Lists node descriptor →
        stack.openLink descriptor = node.openLink := by
  intro always
  have second := always ⟨none, unreadableNodes⟩ pathsApart_unreadableNodes
    (sensorNode ⟨#[0xFE]⟩ "0002" none) _ ⟨rfl, List.mem_of_getElem? (i := 1) rfl, rfl⟩
  exact nomatch second

/-- On hardware that stays the same, a USB sensor that was listed is the one that is opened, and so
is a HID sensor unless its path is unreadable and not the first such. -/
theorem Hardware.returning_of_apart (hardware : Hardware) (paths : hardware.hid.PathsApart)
    (places : hardware.usb.PlacesApart) :
    hardware.hidStack.Returning ∧ hardware.usb.Returning :=
  ⟨HidStack.returning paths, UsbBackend.returning places⟩

/-- Two sensors without readable paths, and a mouse beside a USB sensor. -/
def crowdedHardware : Hardware where
  hid := unreadableNodes
  usb := ⟨[strangeDevice, { strangeDevice with address := 3, vendor := 0x10C4, product := 0xEA60 }],
    none⟩

theorem returning_crowdedHardware :
    crowdedHardware.hid.PathsApart ∧ crowdedHardware.usb.PlacesApart ∧
      crowdedHardware.hidStack.Returning ∧ crowdedHardware.usb.Returning := by
  have places : crowdedHardware.usb.PlacesApart := by
    change [((1 : UInt8), (2 : UInt8)), (1, 3)].Nodup
    decide
  exact ⟨pathsApart_unreadableNodes, places,
    Hardware.returning_of_apart crowdedHardware pathsApart_unreadableNodes places⟩

end SensorStream
