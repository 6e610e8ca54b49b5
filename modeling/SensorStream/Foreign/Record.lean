import SensorStream.Sample

/-!
# Records for foreign programs

Foreign programs take sensors and samples as records of fixed size.  A text
becomes a field of fixed size: its UTF-8 bytes, cut off so that at least one zero
byte follows, and zero bytes up to the size.
-/

namespace SensorStream.Foreign

/-- A text as a field with this many bytes. -/
def fixedText (size : Nat) (text : String) : List UInt8 :=
  let kept := text.toUTF8.toList.take (size - 1)
  kept ++ List.replicate (size - kept.length) 0

/-- The sizes of the fields of a sensor record. -/
def nameSize : Nat :=
  256

def identifierSize : Nat :=
  64

def addressSize : Nat :=
  128

structure SensorRecord where
  name : List UInt8
  identifier : List UInt8
  transport : Transport
  address : List UInt8
  deriving DecidableEq, Repr

namespace SensorRecord

def ofDescriptor (sensor : Descriptor) : SensorRecord where
  name := fixedText nameSize sensor.name
  identifier := fixedText identifierSize sensor.identifier
  transport := sensor.transport
  address := fixedText addressSize sensor.address

end SensorRecord

/-- Write records over the front of an array and leave the rest of it alone. -/
def overwrite {Cell : Type} (written array : List Cell) : List Cell :=
  written ++ array.drop written.length

/-- A whole field is never longer or shorter than its size. -/
theorem length_fixedText (size : Nat) (positive : 0 < size) (text : String) :
    (fixedText size text).length = size := by
  simp only [fixedText, List.length_append, List.length_take, List.length_replicate]
  omega

end SensorStream.Foreign
