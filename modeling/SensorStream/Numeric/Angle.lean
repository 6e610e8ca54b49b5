import SensorStream.Numeric.Dyadic

/-!
# Angles on one turn

A steadily growing angle is brought back to one turn, above -180 and up to 180
degrees.  The remainder by 360 is taken exactly, so no error builds up however
many turns are behind.
-/

namespace SensorStream.Numeric

/-- The remainder of a finite value by a whole turn, with the value's sign. -/
def Dyadic.modTurn (value : Dyadic) : Dyadic :=
  let exponent := min value.exponent 3
  let size := value.mantissa * Nat.pow 2 (value.exponent - exponent).toNat
  let turn := 45 * Nat.pow 2 (3 - exponent).toNat
  ⟨value.negative, size % turn, exponent⟩

/-- The angle from 0 up to 360 that differs from the given one by whole turns.
An angle that is not finite has none. -/
def withinTurn (degrees : Float) : Float :=
  match Dyadic.ofFloat? degrees with
  | none => 0 / 0
  | some value =>
      let remainder := value.modTurn.toFloat
      if remainder < 0 then remainder + 360 else remainder

/-- Bring an angle back to one turn about zero. -/
def wrapDegrees (degrees : Float) : Float :=
  let wrapped := withinTurn degrees
  if wrapped > 180 then wrapped - 360 else wrapped

def radiansPerDegree : Float :=
  Float.ofBits 0x3F91DF46A2529D39

def radians (degrees : Float) : Float :=
  degrees * radiansPerDegree

end SensorStream.Numeric
