import SensorStream.Sensor

/-!
# Bridges

Sensors come with a bridge chip of one vendor.  Which transport a bridge serves
shows in its product number.
-/

namespace SensorStream.Bridge

/-- Silicon Laboratories. -/
def vendor : UInt16 :=
  0x10C4

def hidProducts : List UInt16 :=
  [0xEA80, 0xEAB0]

def usbProducts : List UInt16 :=
  [0xEA60, 0xEA61]

def isHid (vendorId productId : UInt16) : Bool :=
  vendorId == vendor && hidProducts.contains productId

def isUsb (vendorId productId : UInt16) : Bool :=
  vendorId == vendor && usbProducts.contains productId

/-- The name of a sensor that does not tell its own. -/
def fallbackName : String :=
  "LPMS"

end SensorStream.Bridge
