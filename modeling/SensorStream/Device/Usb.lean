import SensorStream.Device.Backend
import SensorStream.Device.Bridge
import SensorStream.Log
import SensorStream.Text.Utf16

/-!
# The USB back end

USB devices sit on a bus under an address.  A sensor's address is made of both
numbers; its name is the product string and its identifier the serial number, as
far as the device tells them in its first language.  Reading strings needs an
open device, but a bridge that cannot be opened is still listed.

Opening a sensor looks for the first device with the sensor's address.
-/

namespace SensorStream

/-- A string that a device keeps. -/
inductive UsbString where
  | absent
  /-- Reading it fails in every language. -/
  | unreadable (cause : UsbError)
  /-- The same units in every language. -/
  | uniform (content : List UInt16)
  /-- Its own units in each of some languages. -/
  | byLanguage (contents : List (UInt16 × List UInt16))
  deriving Repr

namespace UsbString

/-- The most units that a string of a device can have. -/
def longest : Nat :=
  126

def units? (string : UsbString) (language : UInt16) : Option (List UInt16) :=
  match string with
  | absent => none
  | unreadable _ => none
  | uniform content => some content
  | byLanguage contents => contents.lookup language

/-- The text that is read in a language, unless it is empty. -/
def text? (string : UsbString) (language : UInt16) : Option String :=
  match string.units? language with
  | none => none
  | some content =>
      if longest < content.length then none
      else ((Text.Utf16.decode? content).map String.ofList).filter fun text => !text.isEmpty

end UsbString

/-- A device on the bus, and which requests to it fail. -/
structure UsbDevice where
  bus : UInt8
  address : UInt8
  vendor : UInt16
  product : UInt16
  descriptorError? : Option UsbError
  openError? : Option UsbError
  languages : Except UsbError (List UInt16)
  productName : UsbString
  serialNumber : UsbString

namespace UsbDevice

def threeDigits (number : Nat) : String :=
  let digits := Nat.toDigits 10 number
  String.ofList (List.replicate (3 - digits.length) '0' ++ digits)

def location (device : UsbDevice) : String :=
  threeDigits device.bus.toNat ++ ":" ++ threeDigits device.address.toNat

/-- Whether a device can tell that it is a bridge. -/
def isBridge (device : UsbDevice) : Bool :=
  device.descriptorError?.isNone && Bridge.isUsb device.vendor device.product

/-- The language that strings are read in. -/
def language? (device : UsbDevice) : Option UInt16 :=
  match device.languages with
  | .ok languages => languages.head?
  | .error _ => none

/-- A string of the device, read in its first language. -/
def read (device : UsbDevice) (string : UsbString) : Option String :=
  if device.openError?.isSome then none else device.language?.bind string.text?

def describe (device : UsbDevice) : Descriptor where
  name := (device.read device.productName).getD Bridge.fallbackName
  identifier := (device.read device.serialNumber).getD device.location
  transport := .siUsb
  address := device.location

def openLink (device : UsbDevice) : Except AcquireError Link :=
  match device.openError? with
  | none => .ok (.bridge .siUsb)
  | some cause =>
      match cause.kind with
      | .access => .error .refused
      | .busy => .error .refused
      | .other => .error (.io cause.message)

end UsbDevice

/-- The USB back end on the devices that exist now. -/
structure UsbBackend where
  devices : List UsbDevice
  /-- Why the devices cannot be enumerated, if they cannot. -/
  failure? : Option UsbError

namespace UsbBackend

def bridges (backend : UsbBackend) : List UsbDevice :=
  backend.devices.filter UsbDevice.isBridge

def list (backend : UsbBackend) : Except ClientError (List Descriptor) :=
  match backend.failure? with
  | some cause => .error (.usb cause)
  | none => .ok (backend.bridges.map UsbDevice.describe)

def find? (backend : UsbBackend) (sensor : Descriptor) : Option UsbDevice :=
  backend.devices.find? fun device => device.location = sensor.address

def openLink (backend : UsbBackend) (sensor : Descriptor) : Except AcquireError Link :=
  match backend.failure? with
  | some cause => .error (.io cause.message)
  | none =>
      match backend.find? sensor with
      | none => .error (.unknownSensor sensor.identifier)
      | some device => device.openLink

instance : Backend UsbBackend where
  transport _ := .siUsb
  listDevices backend := some backend.list
  openLink sensor _ queue backend := (backend.openLink sensor, queue, backend)

/-- What is logged about a bridge whose strings cannot be read. -/
def readNotes (device : UsbDevice) : List LogLine :=
  match device.openError? with
  | some cause =>
      [.warn ("Cannot read strings of USB device " ++ device.location ++ ": " ++ cause.message)]
  | none => []

def listNotes (backend : UsbBackend) : List LogLine :=
  match backend.failure? with
  | some _ => []
  | none =>
      backend.bridges.flatMap readNotes ++
        [.debug ("SiUsb listing found " ++ toString backend.bridges.length ++ " sensor(s)")]

def openNotes (backend : UsbBackend) (sensor : Descriptor) : List LogLine :=
  match backend.openLink sensor with
  | .ok _ => [.info ("Opened SiUsb sensor " ++ sensor.identifier ++ " at " ++ sensor.address)]
  | .error _ => []

end UsbBackend

end SensorStream
