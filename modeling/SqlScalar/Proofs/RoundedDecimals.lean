import SqlScalar.Proofs.ExactIntegers
import SqlScalar.Proofs.WholeValues

/-! # Decimal numbers rounded to integers

A decimal number that is converted to a type of whole numbers becomes the nearest whole number, of
two that are equally near the one further from zero, and overflows if the type does not have that
number. Rounding depends on the value of a decimal number alone and not on its scale, so it keeps
the order of decimal numbers, and it is the same on both sides of zero.
-/

namespace SqlScalar

namespace Decimal

/-- The quotient of mantissa and power of ten with a half added, rounded down, on the number's own
side of zero. -/
def nearestWhole (number : Decimal) : Int :=
  number.signed.sign *
    ((2 * number.mantissa + 10 ^ number.scale) / (2 * 10 ^ number.scale) : Nat)

/-- Whether a whole number is no more than a half away from a decimal number, and beyond it as seen
from zero if it is just a half away. -/
structure RoundsTo (number : Decimal) (whole : Int) : Prop where
  near : 2 * (number.signed - whole * (10 ^ number.scale : Nat)).natAbs ≤ 10 ^ number.scale
  beyond : 2 * (number.signed - whole * (10 ^ number.scale : Nat)).natAbs = 10 ^ number.scale →
    number.mantissa < whole.natAbs * 10 ^ number.scale

end Decimal

section Quotients

variable {numerator larger : Int} {denominator : Nat}

theorem roundHalfUp_scale (numerator denominator : Nat) {factor : Nat} (positive : 0 < factor) :
    roundHalfUp (numerator * factor) (denominator * factor) =
      roundHalfUp numerator denominator := by
  unfold roundHalfUp
  rw [← Nat.mul_assoc, ← Nat.mul_assoc, ← Nat.add_mul, Nat.mul_div_mul_right _ _ positive]

/-- A quotient is rounded by its value, whatever both sides are multiplied by. -/
theorem roundHalfAway_scale (numerator : Int) (denominator : Nat) {factor : Nat}
    (positive : 0 < factor) :
    roundHalfAway (numerator * factor) (denominator * factor) =
      roundHalfAway numerator denominator := by
  have sameSide : numerator * factor < 0 ↔ numerator < 0 := by
    constructor
    · intro negative
      exact Int.neg_of_mul_neg_left negative (by omega)
    · intro negative
      exact Int.mul_neg_of_neg_of_pos negative (by omega)
  unfold roundHalfAway
  simp only [sameSide, Int.natAbs_mul, Int.natAbs_natCast, roundHalfUp_scale _ _ positive]

theorem roundHalfUp_mono {numerator larger : Nat} (ordered : numerator ≤ larger)
    (denominator : Nat) : roundHalfUp numerator denominator ≤ roundHalfUp larger denominator := by
  unfold roundHalfUp
  exact Nat.div_le_div_right (by omega)

/-- Magnitudes below zero are ordered the other way round. -/
theorem roundHalfAway_mono (ordered : numerator ≤ larger) :
    roundHalfAway numerator denominator ≤ roundHalfAway larger denominator := by
  unfold roundHalfAway
  by_cases negative : numerator < 0
  · rw [if_pos negative]
    by_cases largerNegative : larger < 0
    · rw [if_pos largerNegative]
      have smaller : larger.natAbs ≤ numerator.natAbs := by omega
      have rounded := roundHalfUp_mono smaller denominator
      omega
    · rw [if_neg largerNegative]
      omega
  · rw [if_neg negative, if_neg (by omega)]
    have smaller : numerator.natAbs ≤ larger.natAbs := by omega
    have rounded := roundHalfUp_mono smaller denominator
    omega

/-- A quotient that is rounded up is no more than a half away, and below the result if it is just
a half away. -/
theorem roundHalfUp_near (numerator : Nat) (positive : 0 < denominator) :
    2 * numerator ≤ 2 * (roundHalfUp numerator denominator * denominator) + denominator - 1 ∧
      2 * (roundHalfUp numerator denominator * denominator) ≤ 2 * numerator + denominator := by
  have whole := Nat.div_add_mod (2 * numerator + denominator) (2 * denominator)
  have rest := Nat.mod_lt (2 * numerator + denominator) (Nat.mul_pos Nat.two_pos positive)
  rw [Nat.mul_comm, Nat.mul_left_comm] at whole
  unfold roundHalfUp
  omega

end Quotients

namespace Decimal

variable {smaller larger : Decimal}

theorem ten_pow_pos (scale : Nat) : 0 < 10 ^ scale :=
  Nat.pow_pos (by decide)

/-- A decimal number is rounded to the whole number next to it. -/
theorem round_eq_nearestWhole (number : Decimal) : number.round = number.nearestWhole := by
  have magnitude : (2 * number.mantissa + 10 ^ number.scale) / (2 * 10 ^ number.scale) =
      roundHalfUp number.signed.natAbs (10 ^ number.scale) := by
    rw [natAbs_signed]
    rfl
  rw [nearestWhole, magnitude, round, roundHalfAway]
  rcases Int.lt_trichotomy number.signed 0 with negative | isZero | positive
  · rw [if_pos negative, Int.sign_eq_neg_one_of_neg negative]
    omega
  · -- A half is not enough to leave zero.
    have unmoved : roundHalfUp 0 (10 ^ number.scale) = 0 := by
      have power := ten_pow_pos number.scale
      exact Nat.div_eq_of_lt (by omega)
    simp only [isZero, Int.lt_irrefl, ↓reduceIte, Int.natAbs_zero, unmoved, Int.sign_zero,
      Int.ofNat_zero, Int.mul_zero]
  · rw [if_neg (by omega), Int.sign_eq_one_of_pos positive, Int.one_mul]

/-- The value of a number in the finest units is rounded like the number itself. -/
theorem round_eq_roundHalfAway_units (number : Decimal) :
    number.round = roundHalfAway number.units (10 ^ maxScale) := by
  have finest : 10 ^ maxScale = 10 ^ number.scale * 10 ^ (maxScale - number.scale) := by
    rw [← Nat.pow_add, Nat.add_sub_cancel' number.scale_le]
  have power : (10 : Int) ^ (maxScale - number.scale) =
      ((10 ^ (maxScale - number.scale) : Nat) : Int) := by
    rw [Int.natCast_pow]
    rfl
  rw [round, units, finest, power]
  exact (roundHalfAway_scale _ _ (ten_pow_pos _)).symm

theorem round_mono (ordered : smaller.compare larger ≠ .gt) : smaller.round ≤ larger.round := by
  rw [round_eq_roundHalfAway_units, round_eq_roundHalfAway_units]
  exact roundHalfAway_mono (Int.compare_ne_gt.mp ordered)

/-- The nearest whole number is no more than a half away. -/
theorem roundsTo_nearestWhole (number : Decimal) : number.RoundsTo number.nearestWhole := by
  rw [← round_eq_nearestWhole]
  have power := ten_pow_pos number.scale
  have size := number.natAbs_signed
  obtain ⟨below, above⟩ := roundHalfUp_near number.signed.natAbs power
  rw [round, roundHalfAway]
  by_cases negative : number.signed < 0
  · rw [if_pos negative]
    refine ⟨?_, ?_⟩
    · rw [Int.neg_mul]
      omega
    · rw [Int.neg_mul, Int.natAbs_neg, Int.natAbs_natCast]
      omega
  · rw [if_neg negative]
    refine ⟨?_, ?_⟩
    · omega
    · rw [Int.natAbs_natCast]
      omega

end Decimal

namespace Value

variable {target type : DataType} {whole : Int} {outcome : Outcome Value} {value : Value}

/-- A value that is no overflow is the number in question. -/
theorem FitsOrOverflows.toWhole (reports : FitsOrOverflows type whole outcome)
    (succeeds : outcome = .ok value) : value.toWhole? = some whole := by
  by_cases fits : type.Fits whole
  · obtain ⟨found, isFound, _, counts⟩ := reports.value.mpr fits
    rw [succeeds] at isFound
    cases isFound
    exact counts
  · obtain ⟨_, fails⟩ := reports.overflow.mpr fits
    rw [succeeds] at fails
    cases fails

/-- A value is converted to the number it counts as, or overflows. -/
theorem fitsOrOverflows_convertToWhole (counts : value.toWhole? = some whole) :
    FitsOrOverflows target whole (value.convertToWhole target (ofWhole? target)) := by
  apply fitsOrOverflows_of_ofWhole?
  · intro result found
    simp only [convertToWhole, counts, found]
  · intro missing
    refine ⟨value.display, ?_⟩
    simp only [convertToWhole, counts, missing]

/-- A decimal number converts to the whole number next to it, or overflows. -/
theorem fitsOrOverflows_convertTo (isWhole : target.isWhole = true) (number : Decimal) :
    FitsOrOverflows target number.nearestWhole ((decimal number).convertTo target) := by
  rw [← number.round_eq_nearestWhole]
  have converts : (decimal number).convertTo target =
      (decimal number).convertToWhole target (ofWhole? target) := by
    rcases DataType.isWhole_iff.mp isWhole with rfl | rfl
    · rfl
    · rfl
  rw [converts]
  exact fitsOrOverflows_convertToWhole rfl

/-- Conversion of decimal numbers to a type of whole numbers is exact rounding, half away from
zero, and so odd and monotone. -/
structure RoundsDecimals (target : DataType) : Prop where
  nearest (number : Decimal) : number.RoundsTo number.nearestWhole ∧
    FitsOrOverflows target number.nearestWhole ((decimal number).convertTo target)
  odd {number : Decimal} {value opposite : Value}
    (converts : (decimal number).convertTo target = .ok value)
    (negated : (decimal number.negate).convertTo target = .ok opposite) :
    ∃ count, value.toWhole? = some count ∧ opposite.toWhole? = some (-count)
  monotone {smaller larger : Decimal} {lower upper : Value}
    (ordered : smaller.compare larger ≠ .gt)
    (smallerIs : (decimal smaller).convertTo target = .ok lower)
    (largerIs : (decimal larger).convertTo target = .ok upper) :
    ∃ low high, lower.toWhole? = some low ∧ upper.toWhole? = some high ∧ low ≤ high

/-- Every decimal number is converted to `INTEGER` and to `BIGINT` by exact rounding. -/
theorem roundsDecimals_of_isWhole (isWhole : target.isWhole = true) : RoundsDecimals target where
  nearest number := ⟨number.roundsTo_nearestWhole, fitsOrOverflows_convertTo isWhole number⟩
  odd {number value opposite} converts negated := by
    have counts := (fitsOrOverflows_convertTo isWhole number).toWhole converts
    have opposes := (fitsOrOverflows_convertTo isWhole number.negate).toWhole negated
    rw [← Decimal.round_eq_nearestWhole] at counts opposes
    rw [number.round_negate] at opposes
    exact ⟨number.round, counts, opposes⟩
  monotone {smaller larger lower upper} ordered smallerIs largerIs := by
    have low := (fitsOrOverflows_convertTo isWhole smaller).toWhole smallerIs
    have high := (fitsOrOverflows_convertTo isWhole larger).toWhole largerIs
    rw [← Decimal.round_eq_nearestWhole] at low high
    exact ⟨smaller.round, larger.round, low, high, Decimal.round_mono ordered⟩

/-- The largest `INTEGER` and a half less than the last digit is rounded down, and the whole half
up and out of range. -/
theorem roundsDecimals_at_largest_integer :
    let below : Decimal := ⟨false, 21474836474999999999999999999, 19, by decide, by decide⟩
    let half : Decimal := ⟨false, 21474836475, 1, by decide, by decide⟩
    DataType.integer.isWhole = true ∧
      below.nearestWhole = 2147483647 ∧ half.nearestWhole = 2147483648 ∧
      (∃ value, (decimal below).convertTo .integer = .ok value ∧ value.type = .integer ∧
        value.toWhole? = some 2147483647) ∧
      ∃ computation, (decimal half).convertTo .integer = .error (.overflow computation) := by
  intro below half
  have rounds : RoundsDecimals .integer := roundsDecimals_of_isWhole rfl
  have belowIs : below.nearestWhole = 2147483647 := by decide
  have halfIs : half.nearestWhole = 2147483648 := by decide
  refine ⟨rfl, belowIs, halfIs, ?_, ?_⟩
  · rw [← belowIs]
    exact (rounds.nearest below).2.value.mpr (by rw [belowIs]; exact ⟨by decide, by decide⟩)
  · refine (rounds.nearest half).2.overflow.mpr ?_
    rintro ⟨_, upper⟩
    rw [halfIs] at upper
    exact absurd upper (by decide)

end Value

end SqlScalar
