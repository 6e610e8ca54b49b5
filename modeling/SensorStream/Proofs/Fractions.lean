import Mathlib
import SensorStream.Hub.State

/-!
# Fractions of a whole

How far a listing is, is reported as the quotient of two counts in single precision.  Both
conversions and the division round to the nearest number, ties to the even one.  As long as
the total is at most `2 ^ 24` the counts are exact, and then rounding never makes a part
reach the whole: the quotient is one at the end of the listing and less than one before.
-/

namespace SensorStream

open Float.Model
open Float.Model.UnpackedFloat hiding pack unpack

/-! ## Normal numbers -/

/-- A positive number whose mantissa has all its bits. -/
structure Normal where
  mantissa : Nat
  exponent : Int
  full : 2 ^ 23 ≤ mantissa ∧ mantissa < 2 ^ 24

namespace Normal

theorem mantissa_pos (number : Normal) : 0 < number.mantissa := by
  have low := number.full.1
  omega

theorem log2_mantissa (number : Normal) : number.mantissa.log2 = 23 :=
  (Nat.log2_eq_iff (Nat.ne_of_gt number.mantissa_pos)).2 number.full

def unpacked (number : Normal) : UnpackedFloat :=
  .finite .positive number.mantissa number.exponent number.mantissa_pos

def one : Normal :=
  ⟨2 ^ 23, -23, by decide⟩

/-- The exponents decide which number is smaller, and the mantissas where they are equal. -/
def Below (number other : Normal) : Prop :=
  number.exponent < other.exponent ∨
    number.exponent = other.exponent ∧ number.mantissa < other.mantissa

/-- The exponent is far from those that single precision does not have. -/
def Moderate (number : Normal) : Prop :=
  -32 ≤ number.exponent ∧ number.exponent ≤ 32

end Normal

/-! ## Packing -/

theorem unpackSign_packComponents {spec : Format} (sign : Sign)
    (exponent : BitVec spec.exponentBits) (mantissa : BitVec spec.mantissaBitsWithoutImplicit) :
    unpackSign (packComponents spec sign exponent mantissa) = sign.toBitVec := by
  apply BitVec.eq_of_getLsbD_eq
  intro index bound
  have first : index = 0 := by omega
  subst first
  simp [unpackSign, packComponents, BitVec.getLsbD_append, BitVec.getElem_append]

namespace Normal

/-- The highest bit of a mantissa is not stored. -/
theorem mantissa_of_stored (number : Normal) :
    (1#1 ++ BitVec.ofNat 23 number.mantissa).toNat = number.mantissa := by
  rcases number.full with ⟨low, high⟩
  rw [BitVec.toNat_append, ← Nat.shiftLeft_add_eq_or_of_lt (BitVec.isLt _), BitVec.toNat_ofNat,
    BitVec.toNat_ofNat, Nat.shiftLeft_eq]
  omega

theorem unpack_pack (number : Normal) (low : -149 ≤ number.exponent)
    (high : number.exponent ≤ 104) :
    (Float32.Model.pack number.unpacked).unpack = number.unpacked := by
  rcases Int.eq_ofNat_of_zero_le (show 0 ≤ number.exponent + 149 by omega) with ⟨rank, ranked⟩
  have biased : (number.exponent + 127 + 23).toNat = rank + 1 := by omega
  have stored : (BitVec.ofNat 8 (rank + 1)).toNat = rank + 1 := by
    rw [BitVec.toNat_ofNat, Nat.mod_eq_of_lt (by omega)]
  have regular : BitVec.ofNat 8 (rank + 1) ≠ 0#8 := by
    intro zero
    rw [zero] at stored
    simp at stored
  have finite : BitVec.ofNat 8 (rank + 1) ≠ -1#8 := by
    intro ones
    rw [ones] at stored
    simp at stored
    omega
  have packed : UnpackedFloat.pack .binary32 number.unpacked =
      packComponents .binary32 .positive (BitVec.ofNat 8 (rank + 1))
        (BitVec.ofNat 23 number.mantissa) := by
    rw [← biased, unpacked, UnpackedFloat.pack]
    change (if 2 ^ 8 ≤ (number.exponent + 127 + 23).toNat + 1 then _
      else if number.mantissa.log2 + 1 = 24 then _ else _) = _
    rw [if_neg (by omega), if_pos (by rw [number.log2_mantissa])]
    rfl
  simp only [Float32.Model.pack, Float32.Model.unpack, packed, UnpackedFloat.unpack,
    unpackMantissa_packComponents, unpackExponent_packComponents, unpackSign_packComponents]
  rw [if_neg finite, if_neg regular]
  change _ = UnpackedFloat.finite _ _ _ _
  congr 1
  · exact number.mantissa_of_stored
  · rw [stored]
    change ((rank + 1 : Nat) : Int) - (127 + 23) = number.exponent
    omega

theorem unpack_one : (1 : Float32).toModel.unpack = one.unpacked := rfl

theorem not_one_le {number : Normal} (low : -149 ≤ number.exponent)
    (below : number.exponent < one.exponent) :
    ¬1 ≤ Float32.ofModel (.pack number.unpacked) := by
  have unpacked : (Float32.Model.pack number.unpacked).unpack = number.unpacked :=
    number.unpack_pack low (by simp only [one] at below; omega)
  change ¬decide ((1 : Float32).toModel ≤ Float32.Model.pack number.unpacked) = true
  rw [decide_eq_true_iff]
  change ¬UnpackedFloat.le (1 : Float32).toModel.unpack
    (Float32.Model.pack number.unpacked).unpack = true
  rw [unpack_one, unpacked, UnpackedFloat.le]
  change ¬(some ((compare one.exponent number.exponent).then _)).any (·.isLE) = true
  rw [Int.compare_eq_gt.2 below]
  exact Bool.false_ne_true

end Normal

/-! ## Rounding -/

@[simp] theorem mantissa_ofMantissaAndAccuracy (mantissa : Nat) (accuracy : Accuracy) :
    (ExtendedMantissa.ofMantissaAndAccuracy mantissa accuracy).mantissa = mantissa := by
  rw [ExtendedMantissa.ofMantissaAndAccuracy.eq_def]
  split <;> rfl

theorem mantissa_shiftRightOne (mantissa : Nat) (accuracy : Accuracy) :
    (ExtendedMantissa.ofMantissaAndAccuracy mantissa accuracy).shiftRightOne.mantissa =
      mantissa / 2 := by
  rw [ExtendedMantissa.shiftRightOne, mantissa_ofMantissaAndAccuracy]

theorem le_roundedMantissa (extended : ExtendedMantissa) :
    extended.mantissa ≤ extended.roundedMantissa := by
  rw [ExtendedMantissa.roundedMantissa, Accuracy.roundToNearestEven.eq_def]
  split <;> omega

theorem roundedMantissa_le (extended : ExtendedMantissa) :
    extended.roundedMantissa ≤ extended.mantissa + 1 := by
  rw [ExtendedMantissa.roundedMantissa, Accuracy.roundToNearestEven.eq_def]
  split <;> omega

theorem targetExponent_eq {mantissa : Nat} {exponent : Int}
    (low : -149 ≤ mantissa.log2 + exponent - 23) :
    Format.targetExponent .binary32 (totalExponent mantissa exponent) =
      mantissa.log2 + exponent - 23 := by
  change max (mantissa.log2 + 1 + exponent - 24) (-149) = _
  omega

/-- A mantissa with just its bits stays where it is. -/
theorem shiftToTargetExponent_of_full {mantissa : Nat} {exponent : Int}
    (full : 2 ^ 23 ≤ mantissa ∧ mantissa < 2 ^ 24) (low : -149 ≤ exponent)
    (accuracy : Accuracy) :
    shiftToTargetExponent .binary32 mantissa exponent accuracy =
      (.ofMantissaAndAccuracy mantissa accuracy, exponent) := by
  have bits : mantissa.log2 = 23 := (Nat.log2_eq_iff (by omega)).2 full
  have target :
      Format.targetExponent .binary32 (totalExponent mantissa exponent) = exponent := by
    rw [targetExponent_eq (by omega), bits]
    omega
  rw [shiftToTargetExponent, target, shiftToExponent, Int.sub_self]
  simp only [Int.toNat_zero, Int.natCast_zero, Int.add_zero]
  rfl

/-- A mantissa with one bit more is moved by one place. -/
theorem shiftToTargetExponent_of_wide {mantissa : Nat} {exponent : Int}
    (wide : 2 ^ 24 ≤ mantissa ∧ mantissa < 2 ^ 25) (low : -149 ≤ exponent)
    (accuracy : Accuracy) :
    shiftToTargetExponent .binary32 mantissa exponent accuracy =
      ((ExtendedMantissa.ofMantissaAndAccuracy mantissa accuracy).shiftRightOne,
        exponent + 1) := by
  have bits : mantissa.log2 = 24 := (Nat.log2_eq_iff (by omega)).2 wide
  have target :
      Format.targetExponent .binary32 (totalExponent mantissa exponent) = exponent + 1 := by
    rw [targetExponent_eq (by omega), bits]
    omega
  have places : (exponent + 1 - exponent).toNat = 1 := by omega
  rw [shiftToTargetExponent, target, shiftToExponent, places]
  rfl

section Round

variable {mantissa : Nat} {exponent : Int} {accuracy : Accuracy}

/-- What the rounding of a number comes to is settled by its rounded mantissa. -/
theorem roundWithAccuracy_of_shift {extended : ExtendedMantissa} {shifted : Int}
    (first : shiftToTargetExponent .binary32 mantissa exponent accuracy = (extended, shifted))
    (full : 2 ^ 23 ≤ extended.roundedMantissa ∧ extended.roundedMantissa < 2 ^ 24)
    (low : -149 ≤ shifted) :
    roundWithAccuracy .binary32 .positive mantissa exponent accuracy =
      Normal.unpacked ⟨extended.roundedMantissa, shifted, full⟩ := by
  simp only [roundWithAccuracy, first, shiftToTargetExponent_of_full full low,
    mantissa_ofMantissaAndAccuracy]
  rw [dif_neg (by omega)]
  rfl

theorem roundWithAccuracy_of_overflow {extended : ExtendedMantissa} {shifted : Int}
    (first : shiftToTargetExponent .binary32 mantissa exponent accuracy = (extended, shifted))
    (overflows : extended.roundedMantissa = 2 ^ 24) (low : -149 ≤ shifted) :
    roundWithAccuracy .binary32 .positive mantissa exponent accuracy =
      Normal.unpacked ⟨2 ^ 23, shifted + 1, by decide⟩ := by
  simp only [roundWithAccuracy, first, overflows,
    shiftToTargetExponent_of_wide ⟨Nat.le_refl _, by decide⟩ low]
  rfl

variable (accuracy) in
/-- Rounding a mantissa with just its bits leaves the exponent or raises it by one. -/
theorem roundWithAccuracy_of_full (full : 2 ^ 23 ≤ mantissa ∧ mantissa < 2 ^ 24)
    (low : -149 ≤ exponent) :
    ∃ number : Normal, exponent ≤ number.exponent ∧ number.exponent ≤ exponent + 1 ∧
      (mantissa + 1 < 2 ^ 24 → number.exponent = exponent) ∧
      roundWithAccuracy .binary32 .positive mantissa exponent accuracy = number.unpacked := by
  have first := shiftToTargetExponent_of_full full low accuracy
  have least := le_roundedMantissa (.ofMantissaAndAccuracy mantissa accuracy)
  have most := roundedMantissa_le (.ofMantissaAndAccuracy mantissa accuracy)
  rw [mantissa_ofMantissaAndAccuracy] at least most
  rcases Nat.lt_or_eq_of_le (Nat.le_trans most full.2) with below | overflows
  · refine ⟨_, ?_, ?_, fun _ => rfl,
      roundWithAccuracy_of_shift first ⟨Nat.le_trans full.1 least, below⟩ low⟩
    · exact Int.le_refl exponent
    · exact Int.le_add_one (Int.le_refl exponent)
  · refine ⟨_, ?_, ?_, fun short => ?_, roundWithAccuracy_of_overflow first overflows low⟩
    · exact Int.le_add_one (Int.le_refl exponent)
    · exact Int.le_refl (exponent + 1)
    · omega

/-- Rounding a mantissa with one bit more raises the exponent by one, unless the mantissa is
so near to the next power of two that rounding reaches it. -/
theorem roundWithAccuracy_of_wide (wide : 2 ^ 24 ≤ mantissa ∧ mantissa < 2 ^ 25)
    (low : -149 ≤ exponent)
    (clear : mantissa + 2 < 2 ^ 25 ∨ mantissa + 2 = 2 ^ 25 ∧ accuracy = .exact) :
    ∃ number : Normal, number.exponent = exponent + 1 ∧
      roundWithAccuracy .binary32 .positive mantissa exponent accuracy = number.unpacked := by
  have first := shiftToTargetExponent_of_wide wide low accuracy
  have least :=
    le_roundedMantissa (ExtendedMantissa.ofMantissaAndAccuracy mantissa accuracy).shiftRightOne
  have below :
      (ExtendedMantissa.ofMantissaAndAccuracy mantissa accuracy).shiftRightOne.roundedMantissa <
        2 ^ 24 := by
    rcases clear with below | ⟨near, rfl⟩
    · have most :=
        roundedMantissa_le (ExtendedMantissa.ofMantissaAndAccuracy mantissa accuracy).shiftRightOne
      rw [mantissa_shiftRightOne] at most
      omega
    · have even : mantissa = 2 ^ 25 - 2 := by omega
      subst even
      decide
  rw [mantissa_shiftRightOne] at least
  refine ⟨_, rfl, roundWithAccuracy_of_shift first ⟨?_, below⟩ (by omega)⟩
  exact Nat.le_trans (by omega) least

/-- The mantissa and the exponent stand for a number less than one, and by so much that no
number of single precision lies between it and one. -/
def BelowOne (mantissa : Nat) (exponent : Int) (accuracy : Accuracy) : Prop :=
  exponent ≤ -25 ∧ (mantissa + 2 < 2 ^ 25 ∨ mantissa + 2 = 2 ^ 25 ∧ accuracy = .exact) ∨
    exponent = -24 ∧ mantissa + 1 < 2 ^ 24

/-- Rounding does not raise such a number to one. -/
theorem roundWithAccuracy_of_belowOne (least : 2 ^ 23 ≤ mantissa) (low : -149 ≤ exponent)
    (below : BelowOne mantissa exponent accuracy) :
    ∃ number : Normal, -149 ≤ number.exponent ∧ number.exponent < Normal.one.exponent ∧
      roundWithAccuracy .binary32 .positive mantissa exponent accuracy = number.unpacked := by
  have one : Normal.one.exponent = -23 := rfl
  rcases below with ⟨small, clear⟩ | ⟨same, short⟩
  · rcases Nat.lt_or_ge mantissa (2 ^ 24) with narrow | wide
    · rcases roundWithAccuracy_of_full accuracy ⟨least, narrow⟩ low with
        ⟨number, atLeast, atMost, _, rounded⟩
      exact ⟨number, by omega, by omega, rounded⟩
    · rcases roundWithAccuracy_of_wide ⟨wide, by omega⟩ low clear with
        ⟨number, raised, rounded⟩
      exact ⟨number, by omega, by omega, rounded⟩
  · rcases roundWithAccuracy_of_full accuracy ⟨least, by omega⟩ low with
      ⟨number, _, _, kept, rounded⟩
    have exponent := kept short
    exact ⟨number, by omega, by omega, rounded⟩

theorem roundWithAccuracy_exact (number : Normal) (low : -149 ≤ number.exponent) :
    roundWithAccuracy .binary32 .positive number.mantissa number.exponent .exact =
      number.unpacked :=
  roundWithAccuracy_of_shift (shiftToTargetExponent_of_full number.full low .exact) number.full low

end Round

/-! ## Dividing -/

namespace Normal

variable {number other : Normal}

theorem divCore_eq (moderate : number.Moderate) (otherModerate : other.Moderate) :
    divCore .binary32 number.mantissa number.exponent other.mantissa other.exponent =
      (number.mantissa * 2 ^ 24 / other.mantissa, number.exponent - other.exponent - 24,
        accuracyOfFraction (number.mantissa * 2 ^ 24 % other.mantissa) other.mantissa) := by
  rcases moderate with ⟨low, high⟩
  rcases otherModerate with ⟨otherLow, otherHigh⟩
  have target : Format.targetExponent .binary32
      (totalExponent number.mantissa number.exponent -
        totalExponent other.mantissa other.exponent) =
      number.exponent - other.exponent - 24 := by
    rw [totalExponent, totalExponent, number.log2_mantissa, other.log2_mantissa]
    change max (_ - 24 : Int) (-149) = _
    omega
  have least : min (number.exponent - other.exponent)
      (number.exponent - other.exponent - 24) = number.exponent - other.exponent - 24 := by
    omega
  have places : (number.exponent - other.exponent -
      (number.exponent - other.exponent - 24)).toNat = 24 := by
    omega
  simp only [divCore, target, least, places, Nat.shiftLeft_eq]

theorem div_unpacked (moderate : number.Moderate) (otherModerate : other.Moderate) :
    UnpackedFloat.div .binary32 number.unpacked other.unpacked =
      roundWithAccuracy .binary32 .positive (number.mantissa * 2 ^ 24 / other.mantissa)
        (number.exponent - other.exponent - 24)
        (accuracyOfFraction (number.mantissa * 2 ^ 24 % other.mantissa) other.mantissa) := by
  rw [unpacked, unpacked, UnpackedFloat.div, divCore_eq moderate otherModerate]
  rfl

/-- A number divided by itself is one. -/
theorem div_self (moderate : number.Moderate) :
    UnpackedFloat.div .binary32 number.unpacked number.unpacked = one.unpacked := by
  have wide : 2 ^ 24 ≤ 2 ^ 24 ∧ 2 ^ 24 < 2 ^ 25 := by decide
  rw [div_unpacked moderate moderate, Nat.mul_div_cancel_left _ number.mantissa_pos,
    Nat.mul_mod_right, Int.sub_self]
  exact roundWithAccuracy_of_shift (shiftToTargetExponent_of_wide wide (by decide) .exact)
    (by decide) (by decide)

theorem belowOne_of_below (below : number.Below other) :
    BelowOne (number.mantissa * 2 ^ 24 / other.mantissa) (number.exponent - other.exponent - 24)
      (accuracyOfFraction (number.mantissa * 2 ^ 24 % other.mantissa) other.mantissa) := by
  have full := number.full
  have otherFull := other.full
  rcases below with smaller | ⟨same, less⟩
  · refine .inl ⟨by omega, ?_⟩
    have divided := Nat.div_add_mod (number.mantissa * 2 ^ 24) other.mantissa
    have short : number.mantissa * 2 ^ 24 / other.mantissa < 2 ^ 25 - 1 := by
      rw [Nat.div_lt_iff_lt_mul other.mantissa_pos]
      omega
    generalize number.mantissa * 2 ^ 24 / other.mantissa = quotient at divided short ⊢
    rcases Nat.lt_or_eq_of_le (Nat.le_sub_one_of_lt short) with shorter | greatest
    · exact .inl (by omega)
    · -- Only the greatest mantissa divided by the least comes so near, and it does so exactly.
      rw [greatest] at divided
      have exact : number.mantissa * 2 ^ 24 % other.mantissa = 0 := by omega
      refine .inr ⟨by omega, ?_⟩
      rw [exact]
      rfl
  · refine .inr ⟨by omega, ?_⟩
    have short : number.mantissa * 2 ^ 24 / other.mantissa < 2 ^ 24 - 1 := by
      rw [Nat.div_lt_iff_lt_mul other.mantissa_pos]
      omega
    omega

/-- A number divided by a greater one is less than one. -/
theorem div_of_below (moderate : number.Moderate) (otherModerate : other.Moderate)
    (below : number.Below other) :
    ∃ quotient : Normal, -149 ≤ quotient.exponent ∧ quotient.exponent < one.exponent ∧
      UnpackedFloat.div .binary32 number.unpacked other.unpacked = quotient.unpacked := by
  have atLeast : 2 ^ 23 ≤ number.mantissa * 2 ^ 24 / other.mantissa := by
    have full := number.full
    have otherFull := other.full
    rw [Nat.le_div_iff_mul_le other.mantissa_pos]
    omega
  rw [div_unpacked moderate otherModerate]
  apply roundWithAccuracy_of_belowOne atLeast
  · rcases moderate with ⟨low, high⟩
    rcases otherModerate with ⟨otherLow, otherHigh⟩
    omega
  · exact belowOne_of_below below

end Normal

/-! ## Counting -/

namespace Normal

/-- A count as a normal number; exact up to `2 ^ 24`. -/
def ofCount (count : Nat) (some : 0 < count) : Normal where
  mantissa := count * 2 ^ 23 / 2 ^ count.log2
  exponent := count.log2 - 23
  full := by
    have bits := (Nat.log2_eq_iff (Nat.ne_of_gt some)).1 (rfl : count.log2 = count.log2)
    constructor
    · rw [Nat.le_div_iff_mul_le (Nat.two_pow_pos _), Nat.mul_comm]
      exact Nat.mul_le_mul_right _ bits.1
    · rw [Nat.div_lt_iff_lt_mul (Nat.two_pow_pos _)]
      calc
        count * 2 ^ 23 < 2 ^ (count.log2 + 1) * 2 ^ 23 :=
          Nat.mul_lt_mul_of_pos_right bits.2 (Nat.two_pow_pos _)
        _ = 2 ^ 24 * 2 ^ count.log2 := by rw [Nat.pow_succ]; omega

section Count

variable {count : Nat} {some : 0 < count}

theorem log2_le_of_lt (some : 0 < count) (less : count < 2 ^ 24) : count.log2 ≤ 23 :=
  Nat.le_of_lt_succ ((Nat.log2_lt (Nat.ne_of_gt some)).2 less)

theorem mantissa_ofCount (some : 0 < count) (less : count < 2 ^ 24) :
    (ofCount count some).mantissa = count * 2 ^ (23 - count.log2) := by
  have parted : 2 ^ 23 = 2 ^ (23 - count.log2) * 2 ^ count.log2 := by
    rw [← Nat.pow_add, Nat.sub_add_cancel (log2_le_of_lt some less)]
  simp only [ofCount]
  rw [parted, ← Nat.mul_assoc, Nat.mul_div_cancel _ (Nat.two_pow_pos _)]

theorem moderate_ofCount (some : 0 < count) (bound : count ≤ 2 ^ 24) :
    (ofCount count some).Moderate := by
  have short : count.log2 < 25 := (Nat.log2_lt (Nat.ne_of_gt some)).2 (by omega)
  constructor <;> simp only [ofCount] <;> omega

/-- A smaller count is a smaller number. -/
theorem below_ofCount {total : Nat} (less : count < total) (bound : total ≤ 2 ^ 24) :
    (ofCount count some).Below (ofCount total (Nat.zero_lt_of_lt less)) := by
  have below : count < 2 ^ 24 := Nat.lt_of_lt_of_le less bound
  have short := log2_le_of_lt some below
  have power := Nat.log2_self_le (Nat.ne_of_gt some)
  have ordered : count.log2 ≤ total.log2 :=
    (Nat.le_log2 (by omega)).2 (Nat.le_trans power (Nat.le_of_lt less))
  rcases Nat.lt_or_eq_of_le ordered with smaller | same
  · left
    simp only [ofCount]
    omega
  · right
    have within : total < 2 ^ 24 := (Nat.log2_lt (by omega)).1 (by omega)
    rw [mantissa_ofCount _ below, mantissa_ofCount _ within, same]
    refine ⟨?_, Nat.mul_lt_mul_of_pos_right less (Nat.two_pow_pos _)⟩
    simp only [ofCount, same]

/-- The conversion of a count up to `2 ^ 24` is exact. -/
theorem ofNat_eq (some : 0 < count) (bound : count ≤ 2 ^ 24) :
    UnpackedFloat.ofNat .binary32 count = (ofCount count some).unpacked := by
  rcases Nat.lt_or_eq_of_le bound with less | rfl
  · have short := log2_le_of_lt some less
    have target :
        Format.targetExponent .binary32 (totalExponent count 0) = count.log2 - 23 := by
      rw [targetExponent_eq (by omega)]
      omega
    have places : (0 - ((count.log2 : Int) - 23)).toNat = 23 - count.log2 := by omega
    have reached : (0 : Int) - (23 - count.log2 : Nat) = (ofCount count some).exponent := by
      simp only [ofCount]
      omega
    rw [UnpackedFloat.ofNat, UnpackedFloat.ofInt, UnpackedFloat.normalize,
      Int.compare_eq_gt.2 (by omega)]
    simp only [Int.toNat_natCast, UnpackedFloat.round, target, decreaseExponent, places]
    rw [Nat.shiftLeft_eq, ← mantissa_ofCount some less, reached]
    apply roundWithAccuracy_exact
    rw [← reached]
    omega
  · rfl

end Count

theorem unpack_toFloat32 {count : Nat} (some : 0 < count) (bound : count ≤ 2 ^ 24) :
    (UInt64.ofNat count).toFloat32.toModel.unpack = (ofCount count some).unpacked := by
  have kept : (UInt64.ofNat count).toNat = count := by
    rw [UInt64.toNat_ofNat']
    omega
  have moderate := moderate_ofCount some bound
  change (Float32.Model.pack
    (UnpackedFloat.ofNat .binary32 (UInt64.ofNat count).toNat)).unpack = _
  rw [kept, ofNat_eq some bound]
  apply unpack_pack
  · exact Int.le_trans (by decide) moderate.1
  · exact Int.le_trans moderate.2 (by decide)

end Normal

/-! ## How far a listing is -/

namespace Hub

variable {done total : Nat}

theorem fraction_eq (some : 0 < done) (someAll : 0 < total) (bound : done ≤ 2 ^ 24)
    (boundAll : total ≤ 2 ^ 24) :
    fraction done total = .ofModel (.pack (UnpackedFloat.div .binary32
      (Normal.ofCount done some).unpacked (Normal.ofCount total someAll).unpacked)) := by
  rw [← Normal.unpack_toFloat32 some bound, ← Normal.unpack_toFloat32 someAll boundAll]
  rfl

/-- At its end a listing has come as far as the whole. -/
theorem fraction_self (some : 0 < total) (bound : total ≤ 2 ^ 24) : fraction total total = 1 := by
  rw [fraction_eq some some bound bound, Normal.div_self (Normal.moderate_ofCount _ bound)]
  rfl

/-- Before its end a listing has not come as far as the whole. -/
theorem not_one_le_fraction (some : 0 < done) (less : done < total) (bound : total ≤ 2 ^ 24) :
    ¬1 ≤ fraction done total := by
  have within : done ≤ 2 ^ 24 := Nat.le_trans (Nat.le_of_lt less) bound
  rcases Normal.div_of_below (Normal.moderate_ofCount some within)
      (Normal.moderate_ofCount _ bound) (Normal.below_ofCount less bound) with
    ⟨quotient, low, below, divided⟩
  rw [fraction_eq some (Nat.zero_lt_of_lt less) within bound, divided]
  exact Normal.not_one_le low below

end Hub

end SensorStream
