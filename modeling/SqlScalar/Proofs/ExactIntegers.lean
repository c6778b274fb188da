import SqlScalar.Proofs.OppositeCounts

/-! # Exact integer arithmetic

An operation on two whole numbers of one type fails for a zero divisor, and else has the exact
result if that is a number of the type and overflows if it is not. One remainder is the exception:
that of the least `BIGINT` by minus one overflows with its quotient, although it is zero.
-/

namespace SqlScalar

/-- Whether a number is one that the values of a type of whole numbers can have. -/
def DataType.Fits : DataType → Int → Prop
  | integer, number => -2147483648 ≤ number ∧ number ≤ 2147483647
  | bigint, number => -9223372036854775808 ≤ number ∧ number ≤ 9223372036854775807
  | _, _ => False

/-- The result of an operation on two numbers, quotients and remainders by the magnitudes of the
two: a quotient has the sign of the product, and a remainder that of the dividend. -/
def ArithOp.bySign (op : ArithOp) (left right : Int) : Int :=
  match op with
  | plus => left + right
  | minus => left - right
  | multiply => left * right
  | divide => left.sign * right.sign * (left.natAbs / right.natAbs : Nat)
  | modulus => left.sign * (left.natAbs % right.natAbs : Nat)

namespace Value

/-- Whether an outcome is a number of a type, or an overflow if it is no number of that type. -/
structure FitsOrOverflows (type : DataType) (number : Int) (outcome : Outcome Value) : Prop where
  value : (∃ value, outcome = .ok value ∧ value.type = type ∧ value.toWhole? = some number) ↔
    type.Fits number
  overflow : (∃ computation, outcome = .error (.overflow computation)) ↔ ¬ type.Fits number

/-- Whether an outcome is that of exact arithmetic on two numbers of a type. -/
structure ComputesExactly (type : DataType) (op : ArithOp) (left right : Int)
    (outcome : Outcome Value) : Prop where
  divisionByZero : (∃ computation, outcome = .error (.divisionByZero computation)) ↔
    op.divides = true ∧ right = 0
  result : ¬ (op.divides = true ∧ right = 0) →
    FitsOrOverflows type (op.bySign left right) outcome

end Value

section Narrowing

variable {number : Int}

/-- An `INTEGER` can be narrowed to 32 bits. -/
theorem exists_narrow32? (fits : DataType.integer.Fits number) :
    ∃ narrow, narrow32? number = some narrow := by
  obtain ⟨lower, upper⟩ := fits
  have inRange : Int32.minValue.toInt ≤ number ∧ number ≤ Int32.maxValue.toInt := by
    rw [Int32.toInt_minValue, Int32.toInt_maxValue]
    omega
  exact ⟨_, dif_pos inRange⟩

/-- A `BIGINT` can be narrowed to 64 bits. -/
theorem exists_narrow64? (fits : DataType.bigint.Fits number) :
    ∃ narrow, narrow64? number = some narrow := by
  obtain ⟨lower, upper⟩ := fits
  have inRange : Int64.minValue.toInt ≤ number ∧ number ≤ Int64.maxValue.toInt := by
    rw [Int64.toInt_minValue, Int64.toInt_maxValue]
    omega
  exact ⟨_, dif_pos inRange⟩

theorem fits_toInt32 (number : Int32) : DataType.integer.Fits number.toInt :=
  ⟨number.le_toInt, Int.le_of_lt_add_one number.toInt_lt⟩

theorem fits_toInt64 (number : Int64) : DataType.bigint.Fits number.toInt :=
  ⟨number.le_toInt, Int.le_of_lt_add_one number.toInt_lt⟩

end Narrowing

namespace ArithOp

variable {op : ArithOp} {left right : Int}

/-- Rounding toward zero is division of magnitudes. -/
theorem bySign_eq_exact : op.bySign left right = op.exact left right := by
  cases op with
  | plus | minus | multiply => rfl
  | divide =>
      change _ = left.tdiv right
      rw [← Int.sign_mul_natAbs (left.tdiv right), Int.sign_tdiv, Int.natAbs_tdiv]
      split
      · rename_i smaller
        simp only [bySign, Nat.div_eq_of_lt smaller, Int.ofNat_zero, Int.mul_zero, Int.zero_mul]
      · rfl
  | modulus =>
      change _ = left.tmod right
      rw [← Int.sign_mul_natAbs (left.tmod right), Int.sign_tmod, Int.natAbs_tmod]
      split
      · rename_i divides
        have none := Nat.mod_eq_zero_of_dvd (Int.natAbs_dvd_natAbs.mpr divides)
        simp only [bySign, none, Int.ofNat_zero, Int.mul_zero]
      · rfl

/-- No operation on numbers of 32 bits but a product leaves 33 bits, and a product 63. -/
theorem fits_exact_of_fits (leftFits : DataType.integer.Fits left)
    (rightFits : DataType.integer.Fits right) : DataType.bigint.Fits (op.exact left right) := by
  obtain ⟨leftLower, leftUpper⟩ := leftFits
  obtain ⟨rightLower, rightUpper⟩ := rightFits
  have bounded : (op.exact left right).natAbs ≤ 2 ^ 62 := by
    cases op with
    | plus =>
        change (left + right).natAbs ≤ _
        omega
    | minus =>
        change (left - right).natAbs ≤ _
        omega
    | multiply =>
        change (left * right).natAbs ≤ _
        rw [Int.natAbs_mul]
        have leftSize : left.natAbs ≤ 2 ^ 31 := by omega
        have rightSize : right.natAbs ≤ 2 ^ 31 := by omega
        calc left.natAbs * right.natAbs ≤ 2 ^ 31 * 2 ^ 31 := Nat.mul_le_mul leftSize rightSize
          _ = 2 ^ 62 := rfl
    | divide =>
        have smaller := Int.natAbs_tdiv_le_natAbs left right
        change (left.tdiv right).natAbs ≤ _
        omega
    | modulus =>
        have smaller := Nat.mod_le left.natAbs right.natAbs
        change (left.tmod right).natAbs ≤ _
        rw [Int.natAbs_tmod]
        omega
  exact ⟨by omega, by omega⟩

/-- A quotient of 64 bits has 64 bits but for the opposite of the least number. -/
theorem fits_tdiv_iff (leftFits : DataType.bigint.Fits left) (nonzero : right ≠ 0) :
    DataType.bigint.Fits (left.tdiv right) ↔ ¬ (left = Int64.minValue.toInt ∧ right = -1) := by
  constructor
  · rintro ⟨_, upper⟩ ⟨rfl, rfl⟩
    exact absurd upper (by decide)
  · intro other
    rw [Int64.toInt_minValue] at other
    obtain ⟨lower, upper⟩ := leftFits
    rcases Decidable.em (right.natAbs = 1) with unit | large
    · rcases Int.natAbs_eq_iff.mp unit with rfl | rfl
      · rw [Int.ofNat_one, Int.tdiv_one]
        exact ⟨lower, upper⟩
      · have opposite : left.tdiv (-1) = -left := by rw [Int.tdiv_neg, Int.tdiv_one]
        change DataType.bigint.Fits (left.tdiv (-1))
        rw [opposite]
        exact ⟨by omega, by omega⟩
    · have halved : (left.tdiv right).natAbs ≤ left.natAbs / 2 := by
        rw [Int.natAbs_tdiv]
        exact Nat.div_le_div_left (by omega) (by decide)
      exact ⟨by omega, by omega⟩

/-- A result of 64 bits is found if it fits and, for a remainder, the quotient does too. -/
theorem exact64?_eq_narrow64? (quotient : op = .modulus → DataType.bigint.Fits (left.tdiv right)) :
    op.exact64? left right = narrow64? (op.exact left right) := by
  cases op with
  | plus | minus | multiply | divide => rfl
  | modulus =>
      obtain ⟨narrow, narrows⟩ := exists_narrow64? (quotient rfl)
      have found : narrow64? (divide.exact left right) = some narrow := narrows
      simp only [exact64?, found, Option.bind_eq_bind, Option.bind_some]

end ArithOp

namespace Value

variable {op : ArithOp} {type : DataType} {number : Int} {outcome : Outcome Value}

/-- The value of a type of whole numbers that a number is, if it fits. -/
def ofWhole? : DataType → Int → Option Value
  | .integer, number => (narrow32? number).map integer
  | .bigint, number => (narrow64? number).map bigint
  | _, _ => none

/-- A number that fits a type is a value of it. -/
theorem ofWhole?_of_fits (fits : type.Fits number) :
    ∃ value, ofWhole? type number = some value ∧ value.type = type ∧
      value.toWhole? = some number := by
  cases type with
  | integer =>
      obtain ⟨narrow, narrows⟩ := exists_narrow32? fits
      exact ⟨integer narrow, congrArg (Option.map integer) narrows, rfl,
        congrArg some (narrow32?_eq_some.mp narrows)⟩
  | bigint =>
      obtain ⟨narrow, narrows⟩ := exists_narrow64? fits
      exact ⟨bigint narrow, congrArg (Option.map bigint) narrows, rfl,
        congrArg some (narrow64?_eq_some.mp narrows)⟩
  | _ => cases fits

/-- A number that is a value of a type fits it. -/
theorem fits_of_ofWhole? {value : Value} (found : ofWhole? type number = some value) :
    type.Fits number := by
  cases type with
  | integer =>
      obtain ⟨narrow, narrows, _⟩ := Option.map_eq_some_iff.mp found
      rw [← narrow32?_eq_some.mp narrows]
      exact fits_toInt32 narrow
  | bigint =>
      obtain ⟨narrow, narrows, _⟩ := Option.map_eq_some_iff.mp found
      rw [← narrow64?_eq_some.mp narrows]
      exact fits_toInt64 narrow
  | _ => cases found

/-- What becomes of a number that is reported as an overflow if it is no value of its type. -/
theorem fitsOrOverflows_of_ofWhole?
    (found : ∀ value, ofWhole? type number = some value → outcome = .ok value)
    (missing : ofWhole? type number = none →
      ∃ computation, outcome = .error (.overflow computation)) :
    FitsOrOverflows type number outcome := by
  by_cases fits : type.Fits number
  · obtain ⟨value, isValue, typed, counts⟩ := ofWhole?_of_fits fits
    rw [found value isValue]
    refine ⟨⟨fun _ => fits, fun _ => ⟨value, rfl, typed, counts⟩⟩, ⟨?_, absurd fits⟩⟩
    rintro ⟨_, fails⟩
    cases fails
  · have absent : ofWhole? type number = none :=
      Option.eq_none_iff_forall_ne_some.mpr fun _ isValue => fits (fits_of_ofWhole? isValue)
    obtain ⟨computation, rfl⟩ := missing absent
    refine ⟨⟨?_, fun fitting => absurd fitting fits⟩, ⟨fun _ => fits, fun _ => ⟨_, rfl⟩⟩⟩
    rintro ⟨_, succeeds, _⟩
    cases succeeds

/-- Arithmetic that takes care of a zero divisor first, and else has the exact result. -/
theorem computesExactly_of_result {left right : Int} {a b : Value} {isZero : Bool}
    {result : Option Value} (zero : isZero = true ↔ right = 0)
    (computes : ¬ (op.divides = true ∧ right = 0) →
      result = ofWhole? type (op.exact left right)) :
    ComputesExactly type op left right
      (unlessDivisor isZero op a b (orOverflow op a b result)) := by
  have byZero : (op.divides && isZero) = true ↔ op.divides = true ∧ right = 0 := by
    rw [Bool.and_eq_true, zero]
  unfold unlessDivisor
  by_cases undefined : op.divides = true ∧ right = 0
  · rw [if_pos (byZero.mpr undefined)]
    exact ⟨⟨fun _ => undefined, fun _ => ⟨_, rfl⟩⟩, fun defined => absurd undefined defined⟩
  · rw [if_neg fun isDivision => undefined (byZero.mp isDivision)]
    refine ⟨⟨?_, fun isDivision => absurd isDivision undefined⟩, fun _ => ?_⟩
    · rintro ⟨_, fails⟩
      unfold orOverflow at fails
      split at fails <;> cases fails
    · rw [ArithOp.bySign_eq_exact]
      refine fitsOrOverflows_of_ofWhole? (fun value found => ?_) (fun missing => ?_)
      · rw [computes undefined, found]
        rfl
      · rw [computes undefined, missing]
        exact ⟨_, rfl⟩

/-- Numbers of 32 bits have a result of 64, so all that can go wrong is narrowing it. -/
theorem computesExactly_integer (op : ArithOp) (a b : Int32) :
    ComputesExactly .integer op a.toInt b.toInt ((integer a).arith op (integer b)) := by
  obtain ⟨wide, widens⟩ :=
    exists_narrow64? (op.fits_exact_of_fits (fits_toInt32 a) (fits_toInt32 b))
  have computes : op.exact64? a.toInt b.toInt = some wide := by
    rw [ArithOp.exact64?_eq_narrow64?, widens]
    exact fun _ => ArithOp.divide.fits_exact_of_fits (fits_toInt32 a) (fits_toInt32 b)
  refine computesExactly_of_result ?_ fun _ => ?_
  · rw [beq_iff_eq, ← Int32.toInt_inj]
    rfl
  · simp only [computes, Option.bind_eq_bind, Option.bind_some, narrow64?_eq_some.mp widens]
    rfl

/-- `BIGINT` values are computed exactly, but for one remainder. -/
theorem computesExactly_bigint {op : ArithOp} {a b : Int64}
    (other : ¬ (op = .modulus ∧ a = Int64.minValue ∧ b = -1)) :
    ComputesExactly .bigint op a.toInt b.toInt ((bigint a).arith op (bigint b)) := by
  refine computesExactly_of_result ?_ fun defined => ?_
  · rw [beq_iff_eq, ← Int64.toInt_inj]
    rfl
  · rw [ArithOp.exact64?_eq_narrow64?]
    · rfl
    · rintro rfl
      have nonzero : b.toInt ≠ 0 := fun isZero => defined ⟨rfl, isZero⟩
      refine (ArithOp.fits_tdiv_iff (fits_toInt64 a) nonzero).mpr ?_
      rintro ⟨isLeast, isOpposite⟩
      exact other ⟨rfl, Int64.toInt_inj.mp isLeast, Int64.toInt_inj.mp isOpposite⟩

/-- The quotient that is computed along with this remainder is too large for 64 bits. -/
theorem arith_least_remainder : (bigint Int64.minValue).arith .modulus (bigint (-1)) =
    .error (.overflow "-9223372036854775808 % -1") := by
  rfl

/-- The least `BIGINT` has no remainder by minus one, though that would be zero. -/
theorem not_computesExactly_of_least :
    ¬ ComputesExactly .bigint .modulus Int64.minValue.toInt (Int64.toInt (-1))
      ((bigint Int64.minValue).arith .modulus (bigint (-1))) := by
  intro exactly
  have fits : DataType.bigint.Fits
      (ArithOp.bySign .modulus Int64.minValue.toInt (Int64.toInt (-1))) := by
    exact ⟨by decide, by decide⟩
  have reported := exactly.result fun undefined => by cases undefined.2
  exact reported.overflow.mp ⟨_, arith_least_remainder⟩ fits

/-- An `INTEGER` has an exact opposite or overflows. -/
theorem fitsOrOverflows_negate_integer (a : Int32) :
    FitsOrOverflows .integer (-a.toInt) (integer a).negate := by
  refine fitsOrOverflows_of_ofWhole? (fun value found => ?_) (fun missing => ?_)
  · obtain ⟨narrow, narrows, rfl⟩ := Option.map_eq_some_iff.mp found
    simp only [negate, narrows]
  · refine ⟨"- " ++ (integer a).display, ?_⟩
    simp only [negate, Option.map_eq_none_iff.mp missing]

/-- A `BIGINT` has an exact opposite or overflows. -/
theorem fitsOrOverflows_negate_bigint (a : Int64) :
    FitsOrOverflows .bigint (-a.toInt) (bigint a).negate := by
  refine fitsOrOverflows_of_ofWhole? (fun value found => ?_) (fun missing => ?_)
  · obtain ⟨narrow, narrows, rfl⟩ := Option.map_eq_some_iff.mp found
    simp only [negate, narrows]
  · refine ⟨"- " ++ (bigint a).display, ?_⟩
    simp only [negate, Option.map_eq_none_iff.mp missing]

/-- Arithmetic on two `INTEGER` or two `BIGINT` numbers, and negating one, has the exact result,
overflows if that is no number of the type, and fails for a zero divisor. The one exception is the
remainder of the least `BIGINT` by minus one. -/
theorem whole_arithmetic_exact_iff (op : ArithOp) :
    (∀ a b : Int32,
      ComputesExactly .integer op a.toInt b.toInt ((integer a).arith op (integer b))) ∧
    (∀ a b : Int64,
      ComputesExactly .bigint op a.toInt b.toInt ((bigint a).arith op (bigint b)) ↔
        ¬ (op = .modulus ∧ a = Int64.minValue ∧ b = -1)) ∧
    (∀ a : Int32, FitsOrOverflows .integer (-a.toInt) (integer a).negate) ∧
    ∀ a : Int64, FitsOrOverflows .bigint (-a.toInt) (bigint a).negate := by
  refine ⟨computesExactly_integer op, fun a b => ⟨?_, computesExactly_bigint⟩,
    fitsOrOverflows_negate_integer, fitsOrOverflows_negate_bigint⟩
  rintro exactly ⟨rfl, rfl, rfl⟩
  exact not_computesExactly_of_least exactly

/-- The remainder of the least `BIGINT` by minus one is zero, but it is reported to overflow. -/
theorem not_computesExactly_least_remainder :
    ArithOp.bySign .modulus Int64.minValue.toInt (Int64.toInt (-1)) = 0 ∧
      (bigint Int64.minValue).arith .modulus (bigint (-1)) =
        .error (.overflow "-9223372036854775808 % -1") ∧
      ¬ ComputesExactly .bigint .modulus Int64.minValue.toInt (Int64.toInt (-1))
        ((bigint Int64.minValue).arith .modulus (bigint (-1))) :=
  ⟨rfl, arith_least_remainder, not_computesExactly_of_least⟩

end Value

end SqlScalar
