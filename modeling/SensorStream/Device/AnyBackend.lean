import SensorStream.Device.Hid
import SensorStream.Device.Rehearsed
import SensorStream.Device.Simulated
import SensorStream.Device.Usb

/-!
# One type for all back ends

The back ends side by side, so that a list can hold some of each, and the state
of the hardware that the two hardware back ends work on.
-/

namespace SensorStream

/-- The devices that are plugged in. -/
structure Hardware where
  hid : HidBackend
  usb : UsbBackend
  /-- Why the HID library cannot be set up, if it cannot. -/
  hidFailure? : Option String := none

namespace Hardware

def none : Hardware where
  hid := ⟨[]⟩
  usb := ⟨[], .none⟩

def hidStack (hardware : Hardware) : HidStack :=
  ⟨hardware.hidFailure?, hardware.hid⟩

end Hardware

inductive AnyBackend where
  | hid (stack : HidStack)
  | usb (backend : UsbBackend)
  | simulated (backend : SimulatedBackend)
  | rehearsed (backend : RehearsedBackend)

namespace AnyBackend

/-- Open a link over whichever back end it is. -/
def openLink (sensor : Descriptor) (handle : Handle) (queue : EventQueue) :
    AnyBackend → Except AcquireError Link × EventQueue × AnyBackend
  | hid stack => (stack.openLink sensor, queue, hid stack)
  | usb backend => (backend.openLink sensor, queue, usb backend)
  | simulated backend => (backend.openLink sensor handle, queue, simulated backend)
  | rehearsed backend =>
      let (result, queue, backend) := backend.openLink handle queue
      (result, queue, rehearsed backend)

instance : Backend AnyBackend where
  transport
    | hid stack => Backend.transport stack
    | usb backend => Backend.transport backend
    | simulated backend => Backend.transport backend
    | rehearsed backend => Backend.transport backend
  listDevices
    | hid stack => Backend.listDevices stack
    | usb backend => Backend.listDevices backend
    | simulated backend => Backend.listDevices backend
    | rehearsed backend => Backend.listDevices backend
  openLink := openLink

/-- The back end after the hardware was changed. -/
def replug (hardware : Hardware) : AnyBackend → AnyBackend
  | hid _ => hid hardware.hidStack
  | usb _ => usb hardware.usb
  | other => other

/-- The back end with its gate open, if it has one. -/
def openGate : AnyBackend → AnyBackend
  | rehearsed backend => rehearsed { backend with gateOpen := true }
  | other => other

/-- The back ends of a set of transports.  One whose devices cannot be enumerated
is left out. -/
def ofInterfaces (hardware : Hardware) (interfaces : TransportSet) : List AnyBackend :=
  (if interfaces.hid && hardware.hidFailure?.isNone then [hid hardware.hidStack] else []) ++
    (if interfaces.siUsb && hardware.usb.failure?.isNone then [usb hardware.usb] else []) ++
    (if interfaces.simulated then [simulated .default] else [])

end AnyBackend

end SensorStream
