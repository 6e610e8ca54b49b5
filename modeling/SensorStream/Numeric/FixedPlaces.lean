import SensorStream.Numeric.Dyadic

/-!
# Numbers with a fixed number of places

A measured value is shown with a fixed number of decimal places.  The digits
are those of the exact value rounded to the last place, a tie going to the even
digit; the sign is the sign bit's, so a negative zero shows it.
-/

namespace SensorStream.Numeric

/-- How values are shown: the number of places after the point, and whether a
plus sign stands before values that are not negative. -/
structure FixedPlaces where
  places : Nat
  plus : Bool
  deriving DecidableEq, Repr

namespace FixedPlaces

/-- The sign in front of the digits. -/
def sign (format : FixedPlaces) (negative : Bool) : String :=
  if negative then "-" else if format.plus then "+" else ""

/-- Pad digits on the left with zeros. -/
def padded (width : Nat) (digits : List Char) : List Char :=
  List.replicate (width - digits.length) '0' ++ digits

/-- Write a whole number of units of the last place. -/
def layout (format : FixedPlaces) (units : Nat) : String :=
  let digits := padded (format.places + 1) (Nat.toDigits 10 units)
  let whole := digits.take (digits.length - format.places)
  let fraction := digits.drop (digits.length - format.places)
  String.ofList (if fraction.isEmpty then whole else whole ++ '.' :: fraction)

def render (format : FixedPlaces) (number : Float) : String :=
  if number.isNaN then "NaN"
  else match Dyadic.ofFloat? number with
    | some value =>
        format.sign value.negative ++
          format.layout (roundDyadic (value.mantissa * Nat.pow 10 format.places) value.exponent)
    | none => format.sign (number < 0) ++ "inf"

end FixedPlaces

end SensorStream.Numeric
