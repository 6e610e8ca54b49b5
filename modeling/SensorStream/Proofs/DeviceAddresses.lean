import Mathlib.Data.List.Basic
import SensorStream.Device.Hid
import SensorStream.Device.Usb
import SensorStream.Proofs.TextForms

/-!
# What an address tells about a device

A USB device's address as text gives back the bus and the number on it.  A HID node's address
gives back its path, unless it is empty: all nodes whose paths cannot be read have that address.
-/

namespace SensorStream

/-! ## USB locations -/

namespace UsbDevice

theorem toList_threeDigits (number : Nat) :
    (threeDigits number).toList =
      List.replicate (3 - (Nat.toDigits 10 number).length) '0' ++ Nat.toDigits 10 number :=
  String.toList_ofList

/-- Leading zeros do not change what a numeral says. -/
theorem threeDigits_inj {number other : Nat} (same : threeDigits number = threeDigits other) :
    number = other := by
  have value (number : Nat) : Nat.ofDigitChars 10 (threeDigits number).toList 0 = number := by
    rw [toList_threeDigits, Nat.ofDigitChars_append, Nat.ofDigitChars_replicate_zero,
      Nat.mul_zero, Nat.ofDigitChars_ten_toDigits]
  rw [← value number, same, value]

theorem colon_notMem_threeDigits (number : Nat) : ':' ∉ (threeDigits number).toList := by
  intro member
  rw [toList_threeDigits, List.mem_append] at member
  rcases member with member | member
  · exact absurd (List.eq_of_mem_replicate member) (by decide)
  · have isDigit := Nat.isDigit_of_mem_toDigits (by decide) (by decide) member
    revert isDigit
    decide

/-- A location gives back the bus and the number on the bus. -/
theorem place_of_location {device other : UsbDevice} (same : device.location = other.location) :
    (device.bus, device.address) = (other.bus, other.address) := by
  have split (device : UsbDevice) : device.location.toList =
      (threeDigits device.bus.toNat).toList ++
        ':' :: (threeDigits device.address.toNat).toList := by
    rw [location, String.toList_append, String.toList_append, List.append_assoc]
    rfl
  have texts := congrArg String.toList same
  rw [split, split, List.append_cons_inj_of_notMem (colon_notMem_threeDigits _)
    (colon_notMem_threeDigits _)] at texts
  have bus := UInt8.toNat_inj.1 (threeDigits_inj (String.toList_inj.1 texts.1))
  have address := UInt8.toNat_inj.1 (threeDigits_inj (String.toList_inj.1 texts.2.2))
  rw [bus, address]

end UsbDevice

/-! ## HID paths -/

namespace HidNode

/-- An address that is not empty is the path. -/
theorem path_eq_of_address {node : HidNode} (readable : node.address ≠ "") :
    node.path = node.address.toByteArray := by
  cases decoded : String.fromUTF8? node.path with
  | none => exact absurd (by rw [address, decoded]; rfl) readable
  | some text =>
      rw [address, decoded]
      exact Text.fromUTF8?_eq_some_iff.1 decoded

theorem path_of_address {node other : HidNode} (readable : node.address ≠ "")
    (same : node.address = other.address) : node.path = other.path := by
  rw [path_eq_of_address readable, path_eq_of_address (same ▸ readable), same]

/-- The path is no text, or an empty one. -/
def Unreadable (node : HidNode) : Prop :=
  String.fromUTF8? node.path = none ∨ node.path = "".toByteArray

theorem address_eq_empty_iff {node : HidNode} : node.address = "" ↔ node.Unreadable := by
  constructor
  · intro bare
    cases decoded : String.fromUTF8? node.path with
    | none => exact .inl decoded
    | some text =>
        rw [address, decoded] at bare
        have empty : text = "" := bare
        exact .inr (by rw [Text.fromUTF8?_eq_some_iff.1 decoded, empty])
  · rintro (undecoded | empty)
    · rw [address, undecoded]
      rfl
    · rw [address, empty]
      rfl

end HidNode

end SensorStream
