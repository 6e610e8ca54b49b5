import SensorStream.Device.Backend
import SensorStream.Device.Bridge
import SensorStream.Log

/-!
# The HID back end

HID devices are nodes of the file system, each with a path.  A sensor's address
is the path of its node, if that is text; its name is the product string and its
identifier the serial number, as far as the device tells them.

Opening a sensor looks for the first bridge with the sensor's address and opens
the node at that bridge's path.

Each listing and each opening sets the library up afresh, which can fail.  Which
nodes the library reports, what it reads of them and how it words its errors is
part of the hardware.
-/

namespace SensorStream

/-- A HID node, as the library reports it.  Texts are bytes, because nothing obliges
a device to use UTF-8. -/
structure HidNode where
  path : ByteArray
  vendor : UInt16
  product : UInt16
  /-- Whether the library reports the node at all. -/
  isReported : Bool
  productName? : Option ByteArray
  serial : ByteArray
  /-- Why the library cannot open the node, in its own words, if it cannot. -/
  openFailure? : Option String

namespace HidNode

def isBridge (node : HidNode) : Bool :=
  node.isReported && Bridge.isHid node.vendor node.product

def productText? (node : HidNode) : Option String :=
  node.productName?.bind String.fromUTF8?

def address (node : HidNode) : String :=
  (String.fromUTF8? node.path).getD ""

/-- The serial number, if there is one that is not empty. -/
def serialText? (node : HidNode) : Option String :=
  (String.fromUTF8? node.serial).filter fun serial => !serial.isEmpty

def describe (node : HidNode) : Descriptor where
  name := node.productText?.getD Bridge.fallbackName
  identifier := node.serialText?.getD node.address
  transport := .hid
  address := node.address

def openLink (node : HidNode) : Except AcquireError Link :=
  match node.openFailure? with
  | some report => .error (.io ("open failed: " ++ report))
  | none => .ok (.bridge .hid)

end HidNode

/-- The HID back end on the nodes that exist now. -/
structure HidBackend where
  nodes : List HidNode

namespace HidBackend

def bridges (backend : HidBackend) : List HidNode :=
  backend.nodes.filter HidNode.isBridge

def list (backend : HidBackend) : List Descriptor :=
  backend.bridges.map HidNode.describe

def find? (backend : HidBackend) (sensor : Descriptor) : Option HidNode :=
  backend.bridges.find? fun node => node.address = sensor.address

/-- The node that is opened under a path: the first one that has it. -/
def nodeAt? (backend : HidBackend) (path : ByteArray) : Option HidNode :=
  backend.nodes.find? fun node => (ByteArray.instDecidableEq node.path path).decide

/-- The node that is opened for a descriptor: the one at the path of the bridge
that the descriptor leads to. -/
def target? (backend : HidBackend) (sensor : Descriptor) : Option HidNode :=
  (backend.find? sensor).bind fun bridge => backend.nodeAt? bridge.path

def openLink (backend : HidBackend) (sensor : Descriptor) : Except AcquireError Link :=
  match backend.target? sensor with
  | none => .error (.unknownSensor sensor.identifier)
  | some node => node.openLink

def listNotes (backend : HidBackend) : List LogLine :=
  [.debug ("HID listing found " ++ toString backend.list.length ++ " sensor(s)")]

def openNotes (backend : HidBackend) (sensor : Descriptor) : List LogLine :=
  match backend.openLink sensor with
  | .ok _ => [.info ("Opened HID sensor " ++ sensor.identifier ++ " at " ++ sensor.address)]
  | .error _ => []

end HidBackend

/-- The HID library, which every request sets up afresh. -/
structure HidStack where
  /-- Why it cannot be set up, in its own words, if it cannot. -/
  failure? : Option String
  /-- What it works on once it is set up. -/
  backend : HidBackend

namespace HidStack

def list (stack : HidStack) : Except ClientError (List Descriptor) :=
  match stack.failure? with
  | some report => .error (.hid report)
  | none => .ok stack.backend.list

def openLink (stack : HidStack) (sensor : Descriptor) : Except AcquireError Link :=
  match stack.failure? with
  | some report => .error (.io (ClientError.hid report).message)
  | none => stack.backend.openLink sensor

instance : Backend HidStack where
  transport _ := .hid
  listDevices stack := some stack.list
  openLink sensor _ queue stack := (stack.openLink sensor, queue, stack)

end HidStack

end SensorStream
