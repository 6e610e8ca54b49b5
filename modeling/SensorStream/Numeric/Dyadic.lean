/-!
# Exact values of floating-point numbers

A finite floating-point number is a whole number times a power of two.  This
module takes a number apart into that form, puts small multiples of a power of
two together again, and divides whole numbers with rounding to the nearest.
What is said about digits and remainders elsewhere is said about this form, in
exact arithmetic.
-/

namespace SensorStream.Numeric

/-- The number `± mantissa * 2 ^ exponent`.  Zero keeps its sign. -/
structure Dyadic where
  negative : Bool
  mantissa : Nat
  exponent : Int
  deriving DecidableEq, Repr

namespace Dyadic

/-- The exact value of a finite number; infinities and NaN have none. -/
def ofFloat? (number : Float) : Option Dyadic :=
  let bits : Nat := number.toBits.toNat
  let negative := bits / Nat.pow 2 63 == 1
  let biased : Nat := bits / Nat.pow 2 52 % Nat.pow 2 11
  let fraction : Nat := bits % Nat.pow 2 52
  if biased = 2047 then none
  else if biased = 0 then some ⟨negative, fraction, -1074⟩
  else some ⟨negative, fraction + Nat.pow 2 52, (biased : Int) - 1075⟩

/-- The power of two with an exponent from -1074 to 1023. -/
def powerOfTwo (exponent : Int) : Float :=
  if exponent < -1022 then Float.ofBits (1 <<< UInt64.ofNat (exponent + 1074).toNat)
  else Float.ofBits (UInt64.ofNat (exponent + 1023).toNat <<< 52)

/-- The floating-point number with this value.  It is exact when the mantissa is
below `2 ^ 53` and the exponent is from -1074 to 971, because neither of the two
factors nor the product is rounded then. -/
def toFloat (value : Dyadic) : Float :=
  let size := (UInt64.ofNat value.mantissa).toFloat * powerOfTwo value.exponent
  if value.negative then -size else size

end Dyadic

/-- The whole number nearest to `numerator / denominator`; of two equally near
ones the even one. -/
def roundDiv (numerator denominator : Nat) : Nat :=
  let quotient := numerator / denominator
  let twice := 2 * (numerator % denominator)
  if twice < denominator || (twice == denominator && quotient % 2 == 0) then quotient
  else quotient + 1

/-- A quotient without remainder is not changed by rounding. -/
theorem roundDiv_mul (quotient denominator : Nat) (positive : 0 < denominator) :
    roundDiv (quotient * denominator) denominator = quotient := by
  simp [roundDiv, Nat.mul_div_cancel _ positive, positive]

/-- Rounding moves a quotient by at most half a unit. -/
theorem roundDiv_near (numerator denominator : Nat) (positive : 0 < denominator) :
    2 * (roundDiv numerator denominator * denominator) ≤ 2 * numerator + denominator ∧
      2 * numerator ≤ 2 * (roundDiv numerator denominator * denominator) + denominator := by
  have split := Nat.div_add_mod numerator denominator
  have below := Nat.mod_lt numerator positive
  rw [Nat.mul_comm] at split
  simp only [roundDiv]
  split
  · rename_i down
    simp only [Bool.or_eq_true, decide_eq_true_eq, Bool.and_eq_true, beq_iff_eq] at down
    omega
  · rename_i up
    simp only [Bool.or_eq_true, decide_eq_true_eq, Bool.and_eq_true, beq_iff_eq] at up
    rw [Nat.add_mul]
    omega

/-- The whole number nearest to `size * 2 ^ exponent`, ties to even. -/
def roundDyadic (size : Nat) (exponent : Int) : Nat :=
  if 0 ≤ exponent then size * Nat.pow 2 exponent.toNat
  else roundDiv size (Nat.pow 2 (-exponent).toNat)

end SensorStream.Numeric
