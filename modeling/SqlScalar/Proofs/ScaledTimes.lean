import SqlScalar.Proofs.ClockArithmetic
import SqlScalar.Proofs.WholeFloats

/-! # Times of day scaled by whole numbers

A time of day times a whole number is that time of day added up as many times, round the clock, as
long as its distance from midnight times the number has no more significant bits than a `DOUBLE`.
A longer product is rounded to that many bits before whole days are taken off.
-/

namespace SqlScalar

open Calendar

theorem Calendar.TimeOfDay.ofNanoseconds_neg (count : Int) :
    ofNanoseconds (-(ofNanoseconds count).nanoseconds) = ofNanoseconds (-count) :=
  ofNanoseconds_eq_iff.mpr (ofNanoseconds_modEq count).neg

namespace Value

/-- A time of day added to midnight a number of times. -/
def addedUp (clock : TimeOfDay) : Nat → Outcome Value
  | 0 => .ok (time .midnight)
  | count + 1 => addedUp clock count >>= fun sum => sum.arith .plus (time clock)

/-- A time of day added up as many times as a number says, and then turned round midnight if the
number is negative. -/
def takenTimes (clock : TimeOfDay) (count : Int) : Outcome Value :=
  if count < 0 then addedUp clock count.natAbs >>= negate else addedUp clock count.natAbs

variable {clock : TimeOfDay} {number : Int32}

/-- A time of day added up is the one at so many times its distance from midnight. -/
theorem addedUp_eq (clock : TimeOfDay) (count : Nat) :
    addedUp clock count = .ok (time (.ofNanoseconds (clock.nanoseconds * count))) := by
  induction count with
  | zero =>
      rw [Int.natCast_zero, Int.mul_zero]
      rfl
  | succ count ih =>
      rw [addedUp, ih, ok_bind, time_plus_time, TimeOfDay.ofNanoseconds_add_left,
        Int.natCast_add, Int.natCast_one, Int.mul_add, Int.mul_one]

/-- A time of day taken a number of times is the one at that multiple of its distance from
midnight. -/
theorem takenTimes_eq (clock : TimeOfDay) (count : Int) :
    takenTimes clock count = .ok (time (.ofNanoseconds (clock.nanoseconds * count))) := by
  unfold takenTimes
  split
  · rename_i negative
    rw [addedUp_eq, ok_bind, negate_time, TimeOfDay.ofNanoseconds_neg, ← Int.mul_neg,
      Int.ofNat_natAbs_of_nonpos (Int.le_of_lt negative), Int.neg_neg]
  · rename_i nonneg
    rw [addedUp_eq, Int.natAbs_of_nonneg (Int.not_lt.mp nonneg)]

/-- The size of the distance from midnight times a number. -/
def productSize (clock : TimeOfDay) (number : Int32) : Nat :=
  clock.nanoseconds.natAbs * number.toInt.natAbs

section Sizes

variable (clock : TimeOfDay) (number : Int32)

theorem natAbs_nanoseconds_lt : clock.nanoseconds.natAbs < 2 ^ 47 := by
  have second_lt := clock.second_lt
  have nano_lt := clock.nano_lt
  simp only [TimeOfDay.nanoseconds, nanosPerSecond, secondsPerDay] at *
  omega

theorem natAbs_toInt_le : number.toInt.natAbs ≤ 2 ^ 31 := by
  have lower := number.le_toInt
  have upper := number.toInt_lt
  omega

/-- The product has less than 78 bits. -/
theorem productSize_lt : productSize clock number < 2 ^ 78 := by
  have clockShort := natAbs_nanoseconds_lt clock
  have numberShort := natAbs_toInt_le number
  calc productSize clock number ≤ clock.nanoseconds.natAbs * 2 ^ 31 :=
        Nat.mul_le_mul_left _ numberShort
    _ < 2 ^ 47 * 2 ^ 31 := Nat.mul_lt_mul_of_pos_right clockShort (by decide)
    _ = 2 ^ 78 := rfl

end Sizes

/-- A time of day times a number lies after midnight by the product, cut to an integer of 64
bits. -/
theorem scaleTime_of_truncate? {factor : Value} {scale : Floating .double} {nanoseconds : Int}
    (isFactor : factor.factor? = some scale)
    (cut : ((Floating.ofInt clock.nanoseconds).multiply scale).truncate? = some nanoseconds) :
    scaleTime .multiply clock factor =
      .ok (time (.ofNanoseconds (clamp64 nanoseconds))) := by
  have product : ArithOp.multiply.onFloating (Floating.ofInt clock.nanoseconds) scale =
      (Floating.ofInt clock.nanoseconds).multiply scale := rfl
  unfold scaleTime
  rw [isFactor]
  simp only [unlessDivisor, ArithOp.divides, Bool.false_and, Bool.false_eq_true, ↓reduceIte,
    clockAt_eq]
  rw [product]
  simp only [cut]

/-- A time of day times an integer is computed from the product rounded to a `DOUBLE`. -/
theorem time_times_integer_eq (clock : TimeOfDay) (number : Int32) :
    (time clock).arith .multiply (integer number) =
      .ok (time (.ofNanoseconds (clamp64 (Floating.withSign (number.toInt < 0)
        (FloatFormat.double.nearest (productSize clock number) 1))))) := by
  have clockShort : clock.nanoseconds.natAbs < 2 ^ FloatFormat.double.precision :=
    Nat.lt_trans (natAbs_nanoseconds_lt clock) (Nat.pow_lt_pow_right (by decide) (by decide))
  have numberShort : number.toInt.natAbs < 2 ^ FloatFormat.double.precision :=
    Nat.lt_of_le_of_lt (natAbs_toInt_le number) (Nat.pow_lt_pow_right (by decide) (by decide))
  have wide : FloatFormat.double.precision ≤ FloatFormat.double.unitBits + 1 := by decide
  have roomy : FloatFormat.double.precision + 1 + FloatFormat.double.unitBits ≤
      FloatFormat.double.width := by decide
  have bounded : FloatFormat.double.nearest (productSize clock number) 1 *
      FloatFormat.double.one < 2 ^ FloatFormat.double.width :=
    FloatFormat.nearest_units_lt (productSize_lt clock number) (by decide)
  have positive : decide (clock.nanoseconds < 0) = false :=
    decide_eq_false (Int.not_lt.mpr clock.nanoseconds_nonneg)
  have isFactor : (integer number).factor? = some (Floating.ofInt number.toInt) := rfl
  have cut : ((Floating.ofInt clock.nanoseconds : Floating .double).multiply
      (Floating.ofInt number.toInt)).truncate? = some (Floating.withSign (number.toInt < 0)
        (FloatFormat.double.nearest (productSize clock number) 1)) := by
    rw [Floating.multiply_ofInt wide roomy clockShort numberShort, positive, Bool.false_bne]
    exact Floating.truncate?_ofRatio wide bounded
  have scales : (time clock).arith .multiply (integer number) =
      scaleTime .multiply clock (integer number) := rfl
  rw [scales, scaleTime_of_truncate? isFactor cut]

/-- What fits into 63 bits and a sign is not cut. -/
theorem clamp64_withSign {negative : Bool} {size : Nat} (fits : size < 2 ^ 63) :
    clamp64 (Floating.withSign negative size) = Floating.withSign negative size := by
  unfold clamp64 Floating.withSign
  rw [Int64.toInt_minValue, Int64.toInt_maxValue]
  split
  · omega
  · omega

/-- The product is its size with the sign of the number. -/
theorem nanoseconds_mul_toInt (clock : TimeOfDay) (number : Int32) :
    clock.nanoseconds * number.toInt =
      Floating.withSign (number.toInt < 0) (productSize clock number) := by
  have size : (productSize clock number : Int) = clock.nanoseconds * number.toInt.natAbs := by
    rw [productSize, Int.natCast_mul, Int.natAbs_of_nonneg clock.nanoseconds_nonneg]
  unfold Floating.withSign
  rw [size]
  split
  · rename_i negative
    rw [Int.ofNat_natAbs_of_nonpos (Int.le_of_lt (of_decide_eq_true negative)), Int.mul_neg,
      Int.neg_neg]
  · rename_i nonneg
    have unsigned := of_decide_eq_false (Bool.eq_false_of_not_eq_true nonneg)
    rw [Int.natAbs_of_nonneg (Int.not_lt.mp unsigned)]

/-- Rounding a product of less than 64 bits moves it by less than a day. -/
theorem natAbs_lt_of_roundsTo {number rounded : Nat}
    (rounds : FloatFormat.double.RoundsTo number rounded) (fits : rounded < 2 ^ 63) :
    (rounded - number : Int).natAbs < nanosPerDay := by
  have twice := rounds.le_twice
  have near := rounds.near
  have short : number < 2 ^ 64 := by omega
  have step : FloatFormat.double.step number ≤ 2 ^ (64 - FloatFormat.double.precision) :=
    FloatFormat.step_le_two_pow short
  have few : 2 ^ (64 - FloatFormat.double.precision) = 2 ^ 11 := rfl
  simp only [nanosPerDay, secondsPerDay, nanosPerSecond]
  omega

/-- Two lengths of time less than a day apart lead to one time of day only if they are the same. -/
theorem withSign_modEq_iff {negative : Bool} {size other : Nat}
    (close : (size - other : Int).natAbs < nanosPerDay) :
    Floating.withSign negative size ≡ Floating.withSign negative other [ZMOD nanosPerDay] ↔
      size = other := by
  constructor
  · intro congruent
    have divides := congruent.dvd
    have apart : (Floating.withSign negative other - Floating.withSign negative size).natAbs <
        (nanosPerDay : Int).natAbs := by
      unfold Floating.withSign
      split <;> omega
    have same := Int.eq_zero_of_dvd_of_natAbs_lt_natAbs divides apart
    unfold Floating.withSign at same
    split at same <;> omega
  · rintro rfl
    exact Int.ModEq.refl _

/-- A time of day times an integer is the time of day at the distance from midnight that is the
product rounded to a `DOUBLE`, turned round midnight if the integer is negative, as long as the
rounded product has 63 bits. It is the time of day added up that many times just if the product has
no more significant bits than a `DOUBLE`. -/
theorem time_times_integer {rounded : Nat}
    (rounds : FloatFormat.double.RoundsTo (productSize clock number) rounded)
    (fits : rounded < 2 ^ 63) :
    (0 ≤ number.toInt →
      (time clock).arith .multiply (integer number) = .ok (time (.ofNanoseconds rounded))) ∧
    (number.toInt < 0 →
      (time clock).arith .multiply (integer number) = (time (.ofNanoseconds rounded)).negate) ∧
    ((time clock).arith .multiply (integer number) = takenTimes clock number.toInt ↔
      FloatFormat.double.step (productSize clock number) ∣ productSize clock number) := by
  have nearest := rounds.unique (FloatFormat.double.roundsTo_nearest (productSize clock number))
  have scaled := time_times_integer_eq clock number
  rw [nearest, clamp64_withSign fits] at scaled
  refine ⟨fun nonneg => ?_, fun negative => ?_, ?_⟩
  · have unsigned := decide_eq_false (Int.not_lt.mpr nonneg)
    rw [scaled, unsigned, Floating.withSign_false]
  · have signed := decide_eq_true negative
    rw [scaled, signed, Floating.withSign_true, negate_time, TimeOfDay.ofNanoseconds_neg]
  · rw [scaled, takenTimes_eq, nanoseconds_mul_toInt, Except.ok.injEq, time.injEq,
      TimeOfDay.ofNanoseconds_eq_iff, withSign_modEq_iff (natAbs_lt_of_roundsTo rounds fits),
      rounds.eq_iff]

/-- The last nanosecond of a day times -105 has one bit more than a `DOUBLE`, and its last bit is
rounded off. -/
theorem time_times_minus_105 :
    let latest : TimeOfDay := ⟨86399, 999999999, by decide, by decide, by decide⟩
    FloatFormat.double.RoundsTo (productSize latest (-105)) 9071999999999896 ∧
      (-105 : Int32).toInt < 0 ∧
      (time latest).arith .multiply (integer (-105)) =
        (time (.ofNanoseconds 9071999999999896)).negate ∧
      (time latest).arith .multiply (integer (-105)) ≠ takenTimes latest (-105) := by
  intro latest
  have size : productSize latest (-105) = 9071999999999895 := by decide
  have rounds : FloatFormat.double.RoundsTo (productSize latest (-105)) 9071999999999896 := by
    rw [size]
    exact ⟨by decide, by decide, by decide⟩
  have negative : (-105 : Int32).toInt < 0 := by decide
  have odd : ¬ FloatFormat.double.step (productSize latest (-105)) ∣
      productSize latest (-105) := by
    rw [size]
    decide
  obtain ⟨_, negated, taken⟩ := time_times_integer rounds (by decide)
  exact ⟨rounds, negative, negated negative, fun same => odd (taken.mp same)⟩

/-- The last nanosecond of a day times 105 is not that time of day added up 105 times. -/
theorem not_takenTimes_of_long_product :
    ¬ ∀ (clock : TimeOfDay) (number : Int32), clock.isLeap = false →
      (time clock).arith .multiply (integer number) = takenTimes clock number.toInt := by
  intro taken
  let latest : TimeOfDay := ⟨86399, 999999999, by decide, by decide, by decide⟩
  have same := taken latest 105 rfl
  rw [time_times_integer_eq, takenTimes_eq, Except.ok.injEq, time.injEq,
    TimeOfDay.ofNanoseconds_eq_iff] at same
  revert same
  decide

end Value

end SqlScalar
