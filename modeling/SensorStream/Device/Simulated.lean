import SensorStream.Device.Backend

/-!
# The simulated back end

One sensor that is always there.  A link to it publishes generated measurements.
-/

namespace SensorStream

/-- The simulated back end: the rate of measuring in hertz, the number of
measurements of one link, if it is limited, and the turning rate. -/
structure SimulatedBackend where
  rate : Float
  limit? : Option Nat
  yawRate : Float
  deriving Repr

namespace SimulatedBackend

/-- Rates below one, and what is no number, count as one. -/
def withRate (rate : Float) (limit? : Option Nat) : SimulatedBackend :=
  ⟨if 1 < rate then rate else 1, limit?, 30⟩

def default : SimulatedBackend :=
  withRate 400 none

def identifier : String :=
  "test-0"

def sensor : Descriptor where
  name := "LPMS-TEST"
  identifier := identifier
  transport := .simulated
  address := "sim"

/-- Open a link to the one sensor.  Only the identifier has to match. -/
def openLink (backend : SimulatedBackend) (descriptor : Descriptor) (handle : Handle) :
    Except AcquireError Link :=
  if descriptor.identifier = identifier then
    .ok (.simulated (.start handle backend.rate backend.limit? backend.yawRate))
  else .error (.unknownSensor descriptor.identifier)

instance : Backend SimulatedBackend where
  transport _ := .simulated
  listDevices _ := some (.ok [sensor])
  openLink descriptor handle queue backend := (backend.openLink descriptor handle, queue, backend)

end SimulatedBackend

end SensorStream
