import Mathlib.Data.List.Forall2
import SensorStream.Device.AnyBackend
import SensorStream.Proofs.TextForms

/-!
# How sensors are named

A listing reports each sensor under the name and the identifier that the device tells of itself, as
far as it tells any, and under replacements otherwise.  Both hardware back ends list the devices
that pass their filters, in the order of enumeration, and both go by one rule to name them, with one
exception: a HID node whose product name is empty is listed with that name, where the rule says that
an empty name is none.
-/

namespace SensorStream

/-! ## The rule -/

/-- A text is the one that a device tells.  If the device tells none, or an empty one, it is the
replacement. -/
def ToldOr (tells : String → Prop) (replacement text : String) : Prop :=
  tells text ∧ text ≠ "" ∨ (∀ told : String, tells told → told = "") ∧ text = replacement

theorem toldOr_getD {tells : String → Prop} {read? : Option String}
    (reads : ∀ text : String, read? = some text ↔ tells text ∧ text ≠ "") (replacement : String) :
    ToldOr tells replacement (read?.getD replacement) := by
  cases result : read? with
  | some text => exact .inl ((reads text).1 result)
  | none =>
      refine .inr ⟨fun told tells => ?_, rfl⟩
      by_contra filled
      cases result.symm.trans ((reads told).2 ⟨tells, filled⟩)

/-- A text that goes by the rule is empty only if its replacement is. -/
theorem ToldOr.ne_empty {tells : String → Prop} {replacement text : String}
    (told : ToldOr tells replacement text) (filled : replacement ≠ "") : text ≠ "" := by
  rcases told with ⟨_, told⟩ | ⟨_, rfl⟩
  · exact told
  · exact filled

theorem filter_not_isEmpty_eq_some_iff {read? : Option String} {text : String} :
    (read?.filter fun text => !text.isEmpty) = some text ↔ read? = some text ∧ text ≠ "" := by
  rw [Option.filter_eq_some_iff, Bool.not_eq_true', String.isEmpty_eq_false_iff]

/-! ## HID nodes -/

namespace HidNode

/-- The product name can be read, and this is it. -/
def TellsProduct (node : HidNode) (text : String) : Prop :=
  node.productName? = some text.toByteArray

/-- The serial number can be read, and this is it. -/
def TellsSerial (node : HidNode) (text : String) : Prop :=
  node.serial = text.toByteArray

/-- The vendor and the product number are those of a sensor. -/
def IsSensor (node : HidNode) : Prop :=
  node.vendor = 0x10C4 ∧ (node.product = 0xEA80 ∨ node.product = 0xEAB0)

instance : DecidablePred IsSensor :=
  fun _ => inferInstanceAs (Decidable (_ ∧ _))

/-- How a listing presents a node. -/
structure Presents (node : HidNode) (descriptor : Descriptor) : Prop where
  /-- The name is the product name if it can be read, be it empty or not. -/
  name : node.TellsProduct descriptor.name ∨
    (∀ told : String, ¬node.TellsProduct told) ∧ descriptor.name = "LPMS"
  /-- It goes by the rule exactly if the product name is not an empty one. -/
  regular : ToldOr node.TellsProduct "LPMS" descriptor.name ↔ ¬node.TellsProduct ""
  nameless : descriptor.name = "" ↔ node.TellsProduct ""
  identifier : ToldOr node.TellsSerial descriptor.address descriptor.identifier
  transport : descriptor.transport = .hid
  address : descriptor.address = node.address

variable {node : HidNode}

theorem productText?_eq_some_iff {text : String} :
    node.productText? = some text ↔ node.TellsProduct text := by
  rw [productText?, TellsProduct, Option.bind_eq_some_iff]
  constructor
  · rintro ⟨bytes, told, read⟩
    rw [told, Text.fromUTF8?_eq_some_iff.1 read]
  · intro told
    exact ⟨_, told, Text.fromUTF8?_eq_some_iff.2 rfl⟩

theorem serialText?_eq_some_iff {text : String} :
    node.serialText? = some text ↔ node.TellsSerial text ∧ text ≠ "" := by
  rw [serialText?, filter_not_isEmpty_eq_some_iff, Text.fromUTF8?_eq_some_iff, TellsSerial]

theorem isBridge_iff : node.isBridge = true ↔ node.isReported = true ∧ node.IsSensor := by
  simp [isBridge, Bridge.isHid, Bridge.vendor, Bridge.hidProducts, IsSensor]

theorem presents_describe (node : HidNode) : node.Presents node.describe := by
  have tells (told : String) : node.TellsProduct told ↔ node.productText? = some told :=
    productText?_eq_some_iff.symm
  have identifier : ToldOr node.TellsSerial node.address node.describe.identifier :=
    toldOr_getD (fun _ => serialText?_eq_some_iff) _
  cases read : node.productText? with
  | none =>
      have name : node.describe.name = "LPMS" := by
        rw [describe, read]
        rfl
      have silent (told : String) : ¬node.TellsProduct told := by simp [tells, read]
      refine ⟨?_, ?_, ?_, identifier, rfl, rfl⟩
      · exact .inr ⟨silent, name⟩
      · have replaced : ∀ told : String, node.TellsProduct told → told = "" :=
          fun told telling => absurd telling (silent told)
        exact iff_of_true (.inr ⟨replaced, name⟩) (silent "")
      · exact iff_of_false (name ▸ by decide) (silent "")
  | some text =>
      have name : node.describe.name = text := by
        rw [describe, read]
        rfl
      have only (told : String) : node.TellsProduct told ↔ text = told := by
        rw [tells, read, Option.some.injEq]
      refine ⟨?_, ?_, ?_, identifier, rfl, rfl⟩
      · exact .inl ((only _).2 name.symm)
      · have known : node.TellsProduct node.describe.name := (only _).2 name.symm
        refine ⟨fun told telling => told.ne_empty (by decide) (name.trans ((only _).1 telling)), ?_⟩
        exact fun filled => .inl ⟨known, fun empty => filled (empty ▸ known)⟩
      · rw [name, only]

end HidNode

namespace HidBackend

/-- The devices that an enumeration brings. -/
def reported (backend : HidBackend) : List HidNode :=
  backend.nodes.filter HidNode.isReported

theorem bridges_eq (backend : HidBackend) :
    backend.bridges = backend.reported.filter fun node => node.IsSensor := by
  rw [bridges, reported, List.filter_filter]
  refine List.filter_congr fun node _ => ?_
  rw [Bool.eq_iff_iff, HidNode.isBridge_iff, Bool.and_eq_true, decide_eq_true_eq, and_comm]

end HidBackend

/-- What a listing of HID sensors brings. -/
structure HidStack.Roll (stack : HidStack) : Prop where
  failed : ∀ report : String, stack.failure? = some report → stack.list = .error (.hid report)
  /-- The devices that pass the filter, in the order of enumeration. -/
  listed : stack.failure? = none → ∃ listed : List Descriptor, stack.list = .ok listed ∧
    List.Forall₂ HidNode.Presents (stack.backend.reported.filter fun node => node.IsSensor) listed

theorem forall₂_map {Device : Type} {presents : Device → Descriptor → Prop}
    {describe : Device → Descriptor} (each : ∀ device : Device, presents device (describe device))
    (devices : List Device) : List.Forall₂ presents devices (devices.map describe) :=
  List.forall₂_map_right_iff.2 (List.forall₂_same.2 fun device _ => each device)

theorem HidStack.roll (stack : HidStack) : stack.Roll where
  failed report failed := by rw [list, failed]
  listed available := by
    refine ⟨stack.backend.list, by rw [list, available], ?_⟩
    rw [HidBackend.list, HidBackend.bridges_eq]
    exact forall₂_map HidNode.presents_describe _

/-! ## USB devices -/

namespace UsbDevice

/-- Asked for one of its strings, the device gives this text: it can be opened, has a first
language, and has in it the UTF-16 form of the text, which is not too long to be read. -/
def Tells (device : UsbDevice) (string : UsbString) (text : String) : Prop :=
  device.openError? = none ∧ ∃ (language : UInt16) (others content : List UInt16),
    device.languages = .ok (language :: others) ∧ string.units? language = some content ∧
      content.length ≤ 126 ∧ content = Text.Utf16.encode text.toList

/-- The vendor and the product number are those of a sensor. -/
def IsSensor (device : UsbDevice) : Prop :=
  device.vendor = 0x10C4 ∧ (device.product = 0xEA60 ∨ device.product = 0xEA61)

instance : DecidablePred IsSensor :=
  fun _ => inferInstanceAs (Decidable (_ ∧ _))

/-- How a listing presents a device. -/
structure Presents (device : UsbDevice) (descriptor : Descriptor) : Prop where
  name : ToldOr (device.Tells device.productName) "LPMS" descriptor.name
  named : descriptor.name ≠ ""
  identifier : ToldOr (device.Tells device.serialNumber) descriptor.address descriptor.identifier
  transport : descriptor.transport = .siUsb
  address : descriptor.address = device.location

theorem text?_eq_some_iff {string : UsbString} {language : UInt16} {text : String} :
    string.text? language = some text ↔
      (∃ content : List UInt16, string.units? language = some content ∧ content.length ≤ 126 ∧
        content = Text.Utf16.encode text.toList) ∧ text ≠ "" := by
  have decoded (content : List UInt16) :
      (Text.Utf16.decode? content).map String.ofList = some text ↔
        content = Text.Utf16.encode text.toList := by
    rw [Option.map_eq_some_iff, ← Text.Utf16.decode?_eq_some_iff]
    constructor
    · rintro ⟨characters, read, rfl⟩
      rw [read, String.toList_ofList]
    · exact fun read => ⟨text.toList, read, String.ofList_toList⟩
  rw [UsbString.text?]
  cases string.units? language with
  | none => simp
  | some content =>
      simp only [Option.some.injEq, exists_eq_left']
      rw [Option.ite_none_left_eq_some, filter_not_isEmpty_eq_some_iff, decoded, Nat.not_lt,
        and_assoc]
      rfl

variable {device : UsbDevice}

theorem language?_eq_some_iff {language : UInt16} : device.language? = some language ↔
    ∃ others : List UInt16, device.languages = .ok (language :: others) := by
  rw [language?]
  cases device.languages with
  | error cause => simp
  | ok languages => simp [List.head?_eq_some_iff]

theorem read_eq_some_iff {string : UsbString} {text : String} :
    device.read string = some text ↔ device.Tells string text ∧ text ≠ "" := by
  rw [read, Tells]
  cases device.openError? with
  | some cause => simp
  | none =>
      simp only [Option.isSome_none, Bool.false_eq_true, if_false, Option.bind_eq_some_iff,
        language?_eq_some_iff, text?_eq_some_iff, true_and]
      constructor
      · rintro ⟨language, ⟨others, first⟩, ⟨content, told⟩, filled⟩
        exact ⟨⟨language, others, content, first, told⟩, filled⟩
      · rintro ⟨⟨language, others, content, first, told⟩, filled⟩
        exact ⟨language, ⟨others, first⟩, ⟨content, told⟩, filled⟩

theorem isBridge_iff :
    device.isBridge = true ↔ device.descriptorError? = none ∧ device.IsSensor := by
  simp [isBridge, Bridge.isUsb, Bridge.vendor, Bridge.usbProducts, IsSensor]

theorem presents_describe (device : UsbDevice) : device.Presents device.describe := by
  have name : ToldOr (device.Tells device.productName) "LPMS" device.describe.name :=
    toldOr_getD (fun _ => read_eq_some_iff) _
  refine ⟨name, name.ne_empty (by decide), ?_, rfl, rfl⟩
  exact toldOr_getD (fun _ => read_eq_some_iff) _

end UsbDevice

/-- What a listing of USB sensors brings. -/
structure UsbBackend.Roll (backend : UsbBackend) : Prop where
  failed : ∀ cause : UsbError, backend.failure? = some cause → backend.list = .error (.usb cause)
  /-- The devices that can be asked what they are and pass the filter, in the order of
  enumeration. -/
  listed : backend.failure? = none → ∃ listed : List Descriptor, backend.list = .ok listed ∧
    List.Forall₂ UsbDevice.Presents
      (backend.devices.filter fun device => device.descriptorError? = none ∧ device.IsSensor) listed

theorem UsbBackend.roll (backend : UsbBackend) : backend.Roll where
  failed cause failed := by rw [list, failed]
  listed available := by
    refine ⟨backend.bridges.map UsbDevice.describe, by rw [list, available], ?_⟩
    have bridges : backend.bridges =
        backend.devices.filter fun device =>
          device.descriptorError? = none ∧ device.IsSensor := by
      refine List.filter_congr fun device _ => ?_
      rw [Bool.eq_iff_iff, UsbDevice.isBridge_iff, decide_eq_true_iff]
    rw [bridges]
    exact forall₂_map UsbDevice.presents_describe _

/-- A sensor whose product name is empty. -/
def namelessNode : HidNode where
  path := "/dev/hidraw0".toByteArray
  vendor := 0x10C4
  product := 0xEA80
  isReported := true
  productName? := some "".toByteArray
  serial := "0001".toByteArray
  openFailure? := none

/-- A HID sensor that was listed need not have a name. -/
theorem HidStack.lists_nameless :
    ¬∀ (stack : HidStack) (listed : List Descriptor), stack.list = .ok listed →
      ∀ descriptor ∈ listed, descriptor.name ≠ "" := by
  intro always
  have nameless := (HidNode.presents_describe namelessNode).nameless.2 rfl
  have listed : namelessNode.describe ∈ [namelessNode.describe] := List.mem_singleton.2 rfl
  exact always ⟨none, ⟨[namelessNode]⟩⟩ _ rfl namelessNode.describe listed nameless

/-- Whatever is plugged in and whatever the devices tell of themselves, both back ends list the
sensors in the order of enumeration and name them by one rule, except for HID sensors with an empty
product name. -/
theorem Hardware.rolls (hardware : Hardware) : hardware.hidStack.Roll ∧ hardware.usb.Roll :=
  ⟨hardware.hidStack.roll, hardware.usb.roll⟩

end SensorStream
