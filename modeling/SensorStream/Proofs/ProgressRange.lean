import SensorStream.Proofs.DiscoveryRecord

/-!
# The range of the progress

A tracker forces each fraction that is reported into the unit interval.  NaN cannot be forced
into it: as long as the last report of an incomplete cycle is NaN, so is the progress.  At all
other times the progress lies in the unit interval.
-/

namespace SensorStream

open Float.Model

/-! ## The order of single-precision numbers -/

namespace Single

/-- Two numbers compare the other way round as their order says, unless one of them is none. -/
theorem compare_swap (left right : UnpackedFloat) :
    left.compare right = (right.compare left).map Ordering.swap := by
  rcases left with ⟨_ | _⟩ | _ | _ | ⟨_ | _, mantissa, exponent, _⟩ <;>
    rcases right with ⟨_ | _⟩ | _ | _ | ⟨_ | _, otherMantissa, otherExponent, _⟩ <;>
    try rfl
  -- Two finite numbers of one sign are left.
  · change some _ = some _
    rw [Ordering.swap_swap, Ordering.swap_then, Int.compare_swap, Nat.compare_swap]
  · change some _ = some _
    rw [Ordering.swap_then, Int.compare_swap, Nat.compare_swap]

theorem isSome_compare (left right : UnpackedFloat) :
    (left.compare right).isSome = (!left.isNaN && !right.isNaN) := by
  rcases left with ⟨_ | _⟩ | _ | _ | ⟨_ | _, _⟩ <;>
    rcases right with ⟨_ | _⟩ | _ | _ | ⟨_ | _, _⟩ <;> rfl

variable {left right : Float32}

theorem lt_iff : left < right ↔
    left.toModel.unpack.compare right.toModel.unpack = some .lt := by
  change decide (left.toModel < right.toModel) = true ↔ _
  rw [decide_eq_true_iff]
  change UnpackedFloat.lt left.toModel.unpack right.toModel.unpack = true ↔ _
  rw [UnpackedFloat.lt, beq_iff_eq]

theorem le_iff : left ≤ right ↔
    (left.toModel.unpack.compare right.toModel.unpack).any (·.isLE) = true := by
  change decide (left.toModel ≤ right.toModel) = true ↔ _
  rw [decide_eq_true_iff]
  rfl

/-- Of two numbers one is below the other or at most as great. -/
theorem le_of_not_lt (isNumber : left.isNaN = false) (otherIsNumber : right.isNaN = false)
    (notLess : ¬left < right) : right ≤ left := by
  have compared := isSome_compare left.toModel.unpack right.toModel.unpack
  rw [show left.toModel.unpack.isNaN = false from isNumber,
    show right.toModel.unpack.isNaN = false from otherIsNumber] at compared
  rcases Option.isSome_iff_exists.1 compared with ⟨order, compares⟩
  rw [lt_iff, compares] at notLess
  rw [le_iff, compare_swap, compares]
  cases order with
  | lt => exact absurd rfl notLess
  | eq | gt => rfl

theorem compare_eq_none (isNaN : left.isNaN = true ∨ right.isNaN = true) :
    left.toModel.unpack.compare right.toModel.unpack = none := by
  have compared := isSome_compare left.toModel.unpack right.toModel.unpack
  change _ = (!left.isNaN && !right.isNaN) at compared
  rw [← Option.isNone_iff_eq_none, ← Option.not_isSome, compared]
  rcases isNaN with isNaN | isNaN
  · rw [isNaN]
    rfl
  · rw [isNaN, Bool.not_true, Bool.and_false]
    rfl

/-- NaN is neither below nor above anything. -/
theorem not_lt_of_isNaN (isNaN : left.isNaN = true ∨ right.isNaN = true) : ¬left < right := by
  rw [lt_iff, compare_eq_none isNaN]
  exact nofun

theorem not_le_of_isNaN (isNaN : left.isNaN = true ∨ right.isNaN = true) : ¬left ≤ right := by
  rw [le_iff, compare_eq_none isNaN]
  exact Bool.false_ne_true

end Single

/-! ## Fractions -/

/-- A number from zero to one. -/
def IsFraction (number : Float32) : Prop :=
  0 ≤ number ∧ number ≤ 1

theorem isFraction_zero : IsFraction 0 := by
  constructor <;> decide +kernel

theorem isFraction_one : IsFraction 1 := by
  constructor <;> decide +kernel

theorem clampFraction_of_isNaN {number : Float32} (isNaN : number.isNaN = true) :
    clampFraction number = number := by
  rw [clampFraction, if_neg (Single.not_lt_of_isNaN (.inl isNaN)),
    if_neg (Single.not_lt_of_isNaN (.inr isNaN))]

theorem isFraction_clampFraction {number : Float32} (isNumber : number.isNaN = false) :
    IsFraction (clampFraction number) := by
  rw [clampFraction]
  split
  · exact isFraction_zero
  · rename_i notLess
    split
    · exact isFraction_one
    · rename_i notGreater
      exact ⟨Single.le_of_not_lt isNumber rfl notLess,
        Single.le_of_not_lt rfl isNumber notGreater⟩

theorem IsFraction.isNumber {number : Float32} (isFraction : IsFraction number) :
    number.isNaN = false := by
  rw [← Bool.not_eq_true]
  exact fun isNaN => Single.not_le_of_isNaN (.inr isNaN) isFraction.1

/-! ## The progress of a tracker -/

namespace Tracker

/-- Where the progress lies after these discovery events. -/
structure Ranged (tracker : Tracker) (notices : List Notice) : Prop where
  /-- It is a fraction exactly if the cycle is complete or NaN was not the last report. -/
  isFraction_iff : IsFraction tracker.progress ↔
    (∃ notice ∈ notices, notice.Completes) ∨
      ∀ fraction : Float32, (notices.filterMap Notice.fraction?).getLast? = some fraction →
        fraction.isNaN = false
  /-- There is nothing else that it can be. -/
  isNaN_iff : tracker.progress.isNaN = true ↔ ¬IsFraction tracker.progress

theorem Ranged.of_isFraction {tracker : Tracker} {notices : List Notice}
    (isFraction : IsFraction tracker.progress)
    (reason : (∃ notice ∈ notices, notice.Completes) ∨
      ∀ fraction : Float32, (notices.filterMap Notice.fraction?).getLast? = some fraction →
        fraction.isNaN = false) :
    tracker.Ranged notices where
  isFraction_iff := iff_of_true isFraction reason
  isNaN_iff := by
    rw [isFraction.isNumber]
    exact iff_of_false Bool.false_ne_true (not_not_intro isFraction)

/-- Whatever is reported, and in whatever order, the progress is a fraction unless the last
report of an incomplete cycle was NaN. -/
theorem ranged_foldl_record (notices : List Notice) :
    (notices.foldl record .fresh).Ranged notices := by
  have completed : (notices.foldl record .fresh).complete = true ↔
      ∃ notice ∈ notices, notice.Completes :=
    (complete_foldl_record .fresh notices).trans (or_iff_right Bool.false_ne_true)
  cases complete : (notices.foldl record .fresh).complete with
  | true =>
      have progress : (notices.foldl record .fresh).progress = 1 := if_pos complete
      exact .of_isFraction (progress ▸ isFraction_one) (.inl (completed.1 complete))
  | false =>
      have progress := progress_of_incomplete complete
      rw [lastProgress_foldl_record complete] at progress
      cases last : (notices.filterMap Notice.fraction?).getLast? with
      | none =>
          rw [last] at progress
          refine .of_isFraction (progress ▸ isFraction_zero) (.inr ?_)
          rw [last]
          exact nofun
      | some fraction =>
          rw [last] at progress
          change _ = clampFraction fraction at progress
          cases isNaN : fraction.isNaN with
          | false =>
              refine .of_isFraction (progress ▸ isFraction_clampFraction isNaN) (.inr ?_)
              rw [last]
              rintro _ ⟨⟩
              exact isNaN
          | true =>
              rw [clampFraction_of_isNaN isNaN] at progress
              have notFraction : ¬IsFraction fraction := by
                intro isFraction
                cases isFraction.isNumber.symm.trans isNaN
              constructor
              · rw [progress]
                refine iff_of_false notFraction ?_
                rintro (whole | numbers)
                · cases (completed.2 whole).symm.trans complete
                · cases (numbers fraction last).symm.trans isNaN
              · rw [progress]
                exact iff_of_true isNaN notFraction

/-- The progress need not be a fraction: NaN was reported and nothing else. -/
theorem not_isFraction_of_nan :
    ¬∀ notices : List Notice, IsFraction (notices.foldl record .fresh).progress := by
  intro always
  have isNumber := (always [.progress (0 / 0)]).isNumber
  revert isNumber
  decide +kernel

end Tracker

end SensorStream
