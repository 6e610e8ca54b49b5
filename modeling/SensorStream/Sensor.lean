import SensorStream.Transport

/-!
# Sensors

A sensor that was discovered is known by a descriptor; once a connection to it
is open it is known by a handle.
-/

namespace SensorStream

/-- What discovery reports about a sensor: a name for people, a serial number or
another stable identifier, its transport, and an address that only the transport
understands. -/
structure Descriptor where
  name : String
  identifier : String
  transport : Transport
  address : String
  deriving DecidableEq, Repr

/-- An open connection to a sensor. -/
structure Handle where
  number : UInt64
  deriving DecidableEq, Repr

namespace Handle

def label (handle : Handle) : String :=
  "#" ++ toString handle.number.toNat

end Handle

end SensorStream
