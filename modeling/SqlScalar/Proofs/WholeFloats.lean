import SqlScalar.Floating.Arithmetic

/-! # Whole numbers in floating point

A whole number with no more significant bits than a floating-point format is a number of the
format, and a longer one is rounded to that many bits. The product of two short whole numbers is
computed exactly and rounded once.
-/

namespace SqlScalar

/-- Whether a whole number is another one rounded to the significant bits of a format: the nearest
of the multiples of the last bit, and the even one of two that are equally near. -/
structure FloatFormat.RoundsTo (format : FloatFormat) (number rounded : Nat) : Prop where
  multiple : format.step number ∣ rounded
  near : 2 * (rounded - number : Int).natAbs ≤ format.step number
  even : 2 * (rounded - number : Int).natAbs = format.step number →
    2 * format.step number ∣ rounded

section Quotients

variable {numerator denominator : Nat}

/-- A quotient is rounded by its value, whatever both sides are multiplied by. -/
theorem roundHalfEven_scale (numerator denominator : Nat) {factor : Nat} (positive : 0 < factor) :
    roundHalfEven (numerator * factor) (denominator * factor) =
      roundHalfEven numerator denominator := by
  have below : 2 * (numerator % denominator) * factor < denominator * factor ↔
      2 * (numerator % denominator) < denominator := Nat.mul_lt_mul_right positive
  have above : denominator * factor < 2 * (numerator % denominator) * factor ↔
      denominator < 2 * (numerator % denominator) := Nat.mul_lt_mul_right positive
  unfold roundHalfEven
  simp only [Nat.mul_div_mul_right _ _ positive, Nat.mul_mod_mul_right, ← Nat.mul_assoc, below,
    above]

/-- A quotient that is whole is not rounded. -/
theorem roundHalfEven_mul_of_dvd (positive : 0 < denominator)
    (divides : denominator ∣ numerator) :
    roundHalfEven numerator denominator * denominator = numerator := by
  have whole : roundHalfEven numerator denominator = numerator / denominator := by
    unfold roundHalfEven
    simp only [Nat.mod_eq_zero_of_dvd divides, Nat.mul_zero]
    exact if_pos positive
  rw [whole, Nat.div_mul_cancel divides]

/-- What is rounded by a half is rounded to an even number. -/
theorem two_dvd_roundHalfEven (positive : 0 < denominator)
    (half : 2 * (roundHalfEven numerator denominator * denominator - numerator : Int).natAbs =
      denominator) : 2 ∣ roundHalfEven numerator denominator := by
  have split := Nat.div_add_mod numerator denominator
  rw [Nat.mul_comm] at split
  have rest := Nat.mod_lt numerator positive
  unfold roundHalfEven at half ⊢
  simp only at half ⊢
  generalize numerator / denominator = quotient at *
  split
  · rename_i below
    rw [if_pos below] at half
    omega
  · rename_i notBelow
    rw [if_neg notBelow] at half
    split
    · rename_i above
      rw [if_pos above] at half
      push_cast [Int.add_mul] at half
      omega
    · omega

end Quotients

namespace FloatFormat

variable {format : FloatFormat} {number : Nat}

theorem step_pos (format : FloatFormat) (number : Nat) : 0 < format.step number :=
  Nat.two_pow_pos _

theorem one_pos (format : FloatFormat) : 0 < format.one :=
  Nat.two_pow_pos _

/-- The last bit of a number is no larger than the number. -/
theorem step_le (nonzero : number ≠ 0) : format.step number ≤ number := by
  have positive := format.precision_pos
  exact Nat.le_trans (Nat.pow_le_pow_right (by decide) (by omega)) (Nat.log2_self_le nonzero)

/-- A number with no more bits than the precision needs no step. -/
theorem step_of_short (short : number < 2 ^ format.precision) : format.step number = 1 := by
  have positive := format.precision_pos
  have few : number.log2 + 1 ≤ format.precision := by
    by_cases zero : number = 0
    · rw [zero, Nat.log2_zero]
      exact positive
    · exact (Nat.log2_lt zero).mpr short
  rw [step, Nat.sub_eq_zero_of_le few, Nat.pow_zero]

/-- The last bit of a number of few bits is small. -/
theorem step_le_two_pow {bits : Nat} (small : number < 2 ^ bits) :
    format.step number ≤ 2 ^ (bits - format.precision) := by
  apply Nat.pow_le_pow_right (by decide)
  by_cases zero : number = 0
  · have positive := format.precision_pos
    rw [zero, Nat.log2_zero]
    omega
  · have few := (Nat.log2_lt zero).mpr small
    omega

theorem nearest_scale (numerator denominator : Nat) {factor : Nat} (positive : 0 < factor) :
    format.nearest (numerator * factor) (denominator * factor) =
      format.nearest numerator denominator := by
  simp only [nearest, Nat.mul_div_mul_right _ _ positive]
  rw [Nat.mul_right_comm, roundHalfEven_scale _ _ positive]

/-- The number nearest to a whole number is a multiple of the step at that number. -/
theorem nearest_one (format : FloatFormat) (number : Nat) :
    format.nearest number 1 = roundHalfEven number (format.step number) * format.step number := by
  rw [nearest, Nat.div_one, Nat.one_mul]

/-- A number that is a multiple of its last bit is not rounded. -/
theorem nearest_of_dvd (divides : format.step number ∣ number) :
    format.nearest number 1 = number := by
  rw [nearest_one, roundHalfEven_mul_of_dvd (format.step_pos number) divides]

/-- What is nearest to a whole number is that number rounded to the bits of the format. -/
theorem roundsTo_nearest (format : FloatFormat) (number : Nat) :
    format.RoundsTo number (format.nearest number 1) := by
  have positive := format.step_pos number
  have above := roundHalfEven_mul_le number (format.step number)
  have below := le_roundHalfEven_mul number positive
  rw [nearest_one]
  refine ⟨Nat.dvd_mul_left _ _, by omega, ?_⟩
  intro half
  rw [Int.natCast_mul] at half
  exact Nat.mul_dvd_mul_right (two_dvd_roundHalfEven positive half) _

/-- A number is rounded to itself just if it has no more significant bits than the format. -/
theorem RoundsTo.eq_iff {rounded : Nat} (rounds : format.RoundsTo number rounded) :
    rounded = number ↔ format.step number ∣ number := by
  constructor
  · rintro rfl
    exact rounds.multiple
  · intro divides
    have near := rounds.near
    have positive := format.step_pos number
    have roundedDivides := Int.natCast_dvd_natCast.mpr rounds.multiple
    have numberDivides := Int.natCast_dvd_natCast.mpr divides
    have apart : (format.step number : Int) ∣ rounded - number :=
      Int.dvd_sub roundedDivides numberDivides
    have small : (rounded - number : Int).natAbs < (format.step number : Int).natAbs := by omega
    have same := Int.eq_zero_of_dvd_of_natAbs_lt_natAbs apart small
    omega

/-- Rounding has one result. -/
theorem RoundsTo.unique {rounded rounded' : Nat} (rounds : format.RoundsTo number rounded)
    (rounds' : format.RoundsTo number rounded') : rounded' = rounded := by
  have near := rounds.near
  have near' := rounds'.near
  have positive := format.step_pos number
  by_cases ties : 2 * (rounded - number : Int).natAbs = format.step number ∧
      2 * (rounded' - number : Int).natAbs = format.step number
  · -- Of the two nearest multiples of the last bit one is even.
    have even := Int.natCast_dvd_natCast.mpr (rounds.even ties.1)
    have even' := Int.natCast_dvd_natCast.mpr (rounds'.even ties.2)
    have small : (rounded' - rounded : Int).natAbs <
        ((2 * format.step number : Nat) : Int).natAbs := by omega
    have same := Int.eq_zero_of_dvd_of_natAbs_lt_natAbs (Int.dvd_sub even' even) small
    omega
  · have divides := Int.natCast_dvd_natCast.mpr rounds.multiple
    have divides' := Int.natCast_dvd_natCast.mpr rounds'.multiple
    have small : (rounded' - rounded : Int).natAbs < (format.step number : Int).natAbs := by
      omega
    have same := Int.eq_zero_of_dvd_of_natAbs_lt_natAbs (Int.dvd_sub divides' divides) small
    omega

/-- Rounding neither doubles a number nor halves it. -/
theorem RoundsTo.le_twice {rounded : Nat} (rounds : format.RoundsTo number rounded) :
    number ≤ 2 * rounded ∧ rounded ≤ 2 * number := by
  have near := rounds.near
  by_cases zero : number = 0
  · have exact := rounds.eq_iff.mpr (zero ▸ Nat.dvd_zero _)
    omega
  · have small : format.step number ≤ number := step_le zero
    omega

/-- A number of few bits is far below the bound of a format that has room for them. -/
theorem nearest_units_lt {bits : Nat} (small : number < 2 ^ bits)
    (roomy : bits + 1 + format.unitBits ≤ format.width) :
    format.nearest number 1 * format.one < 2 ^ format.width := by
  have rounded : format.nearest number 1 < 2 ^ (bits + 1) := by
    have twice := (format.roundsTo_nearest number).le_twice
    omega
  calc format.nearest number 1 * format.one < 2 ^ (bits + 1) * format.one :=
        Nat.mul_lt_mul_of_pos_right rounded format.one_pos
    _ = 2 ^ (bits + 1 + format.unitBits) := (Nat.pow_add _ _ _).symm
    _ ≤ 2 ^ format.width := Nat.pow_le_pow_right (by decide) roomy

section Units

variable (wide : format.precision ≤ format.unitBits + 1)

include wide

/-- A whole number is rounded in units of the format as it is in whole numbers. -/
theorem nearest_units (number : Nat) :
    format.nearest (number * format.one) 1 = format.nearest number 1 * format.one := by
  by_cases zero : number = 0
  · subst zero
    rw [Nat.zero_mul, nearest_of_dvd (Nat.dvd_zero _), Nat.zero_mul]
  have bits : (number * format.one).log2 = number.log2 + format.unitBits := by
    have positive := Nat.mul_ne_zero zero (Nat.ne_of_gt format.one_pos)
    rw [Nat.log2_eq_iff positive]
    have lower := Nat.log2_self_le zero
    have upper : number < 2 ^ (number.log2 + 1) := Nat.lt_log2_self
    constructor
    · rw [Nat.pow_add]
      exact Nat.mul_le_mul_right _ lower
    · rw [Nat.add_right_comm, Nat.pow_add]
      exact Nat.mul_lt_mul_of_pos_right upper format.one_pos
  by_cases long : format.precision ≤ number.log2 + 1
  · -- The last bit is a whole number, so it is scaled like the number.
    have scaled : format.step (number * format.one) = format.step number * format.one := by
      have exponent : number.log2 + format.unitBits + 1 - format.precision =
          number.log2 + 1 - format.precision + format.unitBits := by omega
      rw [step, bits, exponent, Nat.pow_add]
      rfl
    rw [nearest_one, scaled, roundHalfEven_scale _ _ format.one_pos, ← Nat.mul_assoc,
      ← nearest_one]
  · -- The last bit is a fraction, so the number is a multiple of it.
    have fraction : format.step (number * format.one) ∣ format.one := by
      rw [step, bits]
      exact Nat.pow_dvd_pow 2 (by omega)
    have short : number < 2 ^ format.precision :=
      Nat.lt_of_lt_of_le Nat.lt_log2_self (Nat.pow_le_pow_right (by decide) (by omega))
    rw [nearest_of_dvd (Nat.dvd_trans fraction (Nat.dvd_mul_left _ _)),
      nearest_of_dvd (step_of_short short ▸ Nat.one_dvd number)]

end Units

end FloatFormat

namespace Floating

variable {format : FloatFormat} {negative : Bool} {number : Nat} {left right : Int}

theorem withSign_false (size : Nat) : withSign false size = size := rfl

theorem withSign_true (size : Nat) : withSign true size = -size := rfl

theorem ofRatio_scale (numerator denominator : Nat) {factor : Nat} (positive : 0 < factor) :
    (ofRatio negative (numerator * factor) (denominator * factor) : Floating format) =
      ofRatio negative numerator denominator := by
  simp only [ofRatio, FloatFormat.nearest_scale _ _ positive]

variable (wide : format.precision ≤ format.unitBits + 1)

include wide

/-- A whole number that is not too large is a finite number of the format. -/
theorem ofRatio_units (negative : Bool)
    (bounded : format.nearest number 1 * format.one < 2 ^ format.width) :
    ∃ representable, (ofRatio negative (number * format.one) 1 : Floating format) =
      finite negative (format.nearest number 1 * format.one) representable := by
  have units := FloatFormat.nearest_units wide number
  have divides := format.step_nearest_dvd (number * format.one) 1
  simp only [ofRatio, units] at divides ⊢
  rw [dif_pos bounded]
  exact ⟨⟨bounded, divides⟩, rfl⟩

/-- The integer nearest to a whole number in a format has no fraction to cut off. -/
theorem truncate?_ofRatio (bounded : format.nearest number 1 * format.one < 2 ^ format.width) :
    (ofRatio negative (number * format.one) 1 : Floating format).truncate? =
      some (withSign negative (format.nearest number 1)) := by
  obtain ⟨representable, rounds⟩ := ofRatio_units wide negative bounded
  rw [rounds, truncate?, Nat.mul_div_cancel _ format.one_pos]

section Products

variable (roomy : format.precision + 1 + format.unitBits ≤ format.width)
  (leftShort : left.natAbs < 2 ^ format.precision)
  (rightShort : right.natAbs < 2 ^ format.precision)

include roomy

/-- A whole number with no more bits than the precision is exact. -/
theorem ofInt_of_short (short : left.natAbs < 2 ^ format.precision) :
    ∃ representable, (ofInt left : Floating format) =
      finite (left < 0) (left.natAbs * format.one) representable := by
  have exact : format.nearest left.natAbs 1 = left.natAbs :=
    FloatFormat.nearest_of_dvd (FloatFormat.step_of_short short ▸ Nat.one_dvd _)
  have bounded := FloatFormat.nearest_units_lt short roomy
  have rounds := ofRatio_units wide (left < 0) bounded
  rw [exact] at rounds
  exact rounds

include leftShort rightShort

/-- The product of two whole numbers is rounded from their exact product. -/
theorem multiply_ofInt :
    (ofInt left : Floating format).multiply (ofInt right) =
      ofRatio (decide (left < 0) != decide (right < 0))
        (left.natAbs * right.natAbs * format.one) 1 := by
  obtain ⟨_, leftIs⟩ := ofInt_of_short wide roomy leftShort
  obtain ⟨_, rightIs⟩ := ofInt_of_short wide roomy rightShort
  have product : left.natAbs * format.one * (right.natAbs * format.one) =
      left.natAbs * right.natAbs * format.one * format.one := by
    rw [Nat.mul_mul_mul_comm, Nat.mul_assoc (left.natAbs * right.natAbs)]
  rw [leftIs, rightIs, multiply, product]
  have scaled := @ofRatio_scale format (decide (left < 0) != decide (right < 0))
    (left.natAbs * right.natAbs * format.one) 1 format.one format.one_pos
  rw [Nat.one_mul] at scaled
  exact scaled

end Products

end Floating

end SqlScalar
