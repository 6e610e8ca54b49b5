import SensorStream.Sensor

/-!
# Errors

Three layers can fail: the library under a transport, one attempt to obtain a
connection, and a request to the client or its source.  A library words its errors
itself.  Each other layer has its own type of causes, and each type has one function
that gives the wording.
-/

namespace SensorStream

/-- The errors of the USB library that a caller tells apart. -/
inductive UsbErrorKind where
  | access
  | busy
  | other
  deriving DecidableEq, Repr

/-- What the USB library reports, with its own wording. -/
structure UsbError where
  kind : UsbErrorKind
  message : String
  deriving DecidableEq, Repr

/-- Why one attempt to obtain a connection failed. -/
inductive AcquireError where
  | invalidHandle
  | unsupportedTransport (key : String)
  | refused
  | io (report : String)
  | unknownSensor (identifier : String)
  | sourceClosed
  deriving DecidableEq, Repr

namespace AcquireError

def message : AcquireError → String
  | invalidHandle => "invalid client handle"
  | unsupportedTransport key => "IO type '" ++ key ++ "' is not supported"
  | refused => "failed to establish a connection with the sensor"
  | io report => "low-level IO failed: " ++ report
  | unknownSensor identifier => "sensor '" ++ identifier ++ "' is not present"
  | sourceClosed => "event source is shut down"

end AcquireError

/-- Why a request to the client or to an event source failed. -/
inductive ClientError where
  | initFailed (reason : String)
  | hid (report : String)
  | usb (cause : UsbError)
  | listingFailed (reason : String)
  | noSensorFound
  | discoveryTimeout
  | connectFailed (attempts : Nat) (last : AcquireError)
  | sourceClosed
  | sourceFailed (reason : String)
  | timeout
  | streamStopped
  | unknownHandle (handle : Handle)
  | wrongState (state : String)
  deriving DecidableEq, Repr

namespace ClientError

def message : ClientError → String
  | initFailed reason => "Event source failed to initialize: " ++ reason
  | hid report => "HID error: " ++ report
  | usb cause => "USB error: " ++ cause.message
  | listingFailed reason => "Sensor listing failed: " ++ reason
  | noSensorFound => "No sensor found on the system"
  | discoveryTimeout => "Sensor discovery did not complete in time"
  | connectFailed attempts last =>
      "Could not connect to sensor after " ++ toString attempts ++ " attempt(s): " ++ last.message
  | sourceClosed => "Event source closed"
  | sourceFailed reason => "Event source failed: " ++ reason
  | timeout => "Timeout waiting for data"
  | streamStopped => "Sample stream stopped"
  | unknownHandle handle => "Unknown sensor handle " ++ handle.label
  | wrongState state => "Operation not allowed in state " ++ state

/-- The exit status of a program that ends with this error.  A discovery that
found nothing is reported but is no failure. -/
def exitCode : ClientError → UInt32
  | noSensorFound => 0
  | _ => 1

end ClientError

/-- What is remembered of the latest failure for callers that cannot be handed
an error. -/
structure LastError where
  message? : Option String
  deriving DecidableEq, Repr

namespace LastError

def clear : LastError :=
  ⟨none⟩

def set (error : ClientError) : LastError :=
  ⟨some error.message⟩

/-- What a reader of a zero-terminated text sees: everything before the first
NUL character, and nothing at all if no failure is remembered. -/
def read (last : LastError) : Option String :=
  last.message?.map fun message =>
    String.ofList (message.toList.takeWhile fun character => character != '\x00')

end LastError

end SensorStream
