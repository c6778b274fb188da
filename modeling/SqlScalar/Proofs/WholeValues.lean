import SqlScalar.Proofs.EvaluationTyping
import SqlScalar.Proofs.WholeDecimals

/-! # Whole numbers computed as decimal numbers

A whole number of a fixed width or `NULL`, and what takes its place where arithmetic is forced to
be decimal. Conversion, negation and all arithmetic but division keep the two in step, as long as
the whole numbers do not overflow.
-/

namespace SqlScalar

/-- The types of whole numbers of a fixed width. -/
def DataType.isWhole : DataType → Bool
  | integer | bigint => true
  | _ => false

theorem DataType.isWhole_iff {type : DataType} :
    type.isWhole = true ↔ type = .integer ∨ type = .bigint := by
  cases type <;> decide

theorem DataType.isUntyped_of_isWhole {type : DataType} (whole : type.isWhole = true) :
    type.isUntyped = false := by
  cases type <;> first | rfl | cases whole

theorem DataType.ne_unknown_of_isWhole {type : DataType} (whole : type.isWhole = true) :
    type ≠ .unknown := by
  rintro rfl
  cases whole

namespace ArithOp

variable {op : ArithOp} {left right : Int} {wide : Int64}

/-- A result of 64 bits is the exact one. -/
theorem toInt_of_exact64? (computes : op.exact64? left right = some wide) :
    wide.toInt = op.exact left right := by
  cases op with
  | plus | minus | multiply | divide => exact narrow64?_eq_some.mp computes
  | modulus =>
      obtain ⟨_, _, narrows⟩ := Option.bind_eq_some_iff.mp computes
      exact narrow64?_eq_some.mp narrows

end ArithOp

namespace Value

variable {op : ArithOp} {value left right result : Value} {type : DataType} {number other : Int}

/-- A division has a result only if the divisor is not zero. -/
theorem divisor_of_unlessDivisor {isZero : Bool} {computed : Outcome Value}
    (succeeds : unlessDivisor isZero op left right computed = .ok result)
    (divides : op.divides = true) : isZero = false := by
  unfold unlessDivisor at succeeds
  rw [divides, Bool.true_and] at succeeds
  cases isZero with
  | false => rfl
  | true => cases succeeds

theorem isNull_of_isWhole (whole : value.type.isWhole = true) : value.isNull = false :=
  isNull_eq_false_of_typed (DataType.isUntyped_of_isWhole whole)

/-- A whole number is far from being too large for a decimal number. -/
theorem natAbs_lt_of_isWhole (whole : value.type.isWhole = true)
    (counts : value.toWhole? = some number) : number.natAbs < Decimal.mantissaLimit := by
  unfold Decimal.mantissaLimit
  cases value with
  | integer held =>
      cases counts
      have upper := held.toInt_lt
      have lower := held.le_toInt
      omega
  | bigint held =>
      cases counts
      have upper := held.toInt_lt
      have lower := held.le_toInt
      omega
  | _ => cases whole

/-- Arithmetic on whole numbers has the exact result, and never divides by zero. -/
theorem whole_of_arith (whole : type.isWhole = true) (leftType : left.type = type)
    (rightType : right.type = type) (leftIs : left.toWhole? = some number)
    (rightIs : right.toWhole? = some other) (computes : left.arith op right = .ok result) :
    (op.divides = true → other ≠ 0) ∧ result.toWhole? = some (op.exact number other) := by
  subst leftType
  cases left with
  | integer a =>
      cases right <;> cases rightType
      rename_i b
      cases leftIs
      cases rightIs
      refine ⟨fun divides isZero => ?_, ?_⟩
      · have nonzero := divisor_of_unlessDivisor computes divides
        have same : b = 0 := Int32.toInt_inj.mp isZero
        rw [same] at nonzero
        cases nonzero
      · obtain ⟨wide, exactly, narrows⟩ :=
          Option.bind_eq_some_iff.mp (orOverflow_eq_ok.mp (unlessDivisor_eq_ok computes))
        obtain ⟨narrow, fits, rfl⟩ := Option.map_eq_some_iff.mp narrows
        rw [toWhole?, narrow32?_eq_some.mp fits, ArithOp.toInt_of_exact64? exactly]
  | bigint a =>
      cases right <;> cases rightType
      rename_i b
      cases leftIs
      cases rightIs
      refine ⟨fun divides isZero => ?_, ?_⟩
      · have nonzero := divisor_of_unlessDivisor computes divides
        have same : b = 0 := Int64.toInt_inj.mp isZero
        rw [same] at nonzero
        cases nonzero
      · obtain ⟨wide, exactly, rfl⟩ :=
          Option.map_eq_some_iff.mp (orOverflow_eq_ok.mp (unlessDivisor_eq_ok computes))
        rw [toWhole?, ArithOp.toInt_of_exact64? exactly]
  | _ => cases whole

/-- Conversion to a whole type keeps the number if narrowing does. -/
theorem whole_of_convertToWhole (counts : value.toWhole? = some number)
    {narrow? : Int → Option Value}
    (narrow : ∀ whole, narrow? whole = some result → result.toWhole? = some whole)
    (converts : value.convertToWhole type narrow? = .ok result) :
    result.toWhole? = some number := by
  simp only [convertToWhole, counts] at converts
  split at converts
  · rename_i narrows
    cases converts
    exact narrow number narrows
  · cases converts

/-- A whole number is converted to another whole type only as the number it is. -/
theorem whole_of_convertTo (whole : value.type.isWhole = true) (target : type.isWhole = true)
    (counts : value.toWhole? = some number) (converts : value.convertTo type = .ok result) :
    result.toWhole? = some number := by
  unfold convertTo at converts
  split at converts
  · cases converts
    exact counts
  · rw [if_neg (ne_true_of_eq_false (isNull_of_isWhole whole))] at converts
    cases type with
    | integer =>
        refine whole_of_convertToWhole counts ?_ converts
        intro wide narrows
        obtain ⟨held, fits, rfl⟩ := Option.map_eq_some_iff.mp narrows
        exact congrArg some (narrow32?_eq_some.mp fits)
    | bigint =>
        refine whole_of_convertToWhole counts ?_ converts
        intro wide narrows
        obtain ⟨held, fits, rfl⟩ := Option.map_eq_some_iff.mp narrows
        exact congrArg some (narrow64?_eq_some.mp fits)
    | _ => cases target

/-- A negated whole number is the opposite one. -/
theorem whole_of_negate (whole : value.type.isWhole = true) (counts : value.toWhole? = some number)
    (negates : value.negate = .ok result) : result.toWhole? = some (-number) := by
  cases value with
  | integer held =>
      cases counts
      simp only [negate] at negates
      split at negates
      · rename_i fits
        cases negates
        exact congrArg some (narrow32?_eq_some.mp fits)
      · cases negates
  | bigint held =>
      cases counts
      simp only [negate] at negates
      split at negates
      · rename_i fits
        cases negates
        exact congrArg some (narrow64?_eq_some.mp fits)
      · cases negates
  | _ => cases whole

theorem exists_of_isWhole (whole : value.type.isWhole = true) :
    ∃ number, value.toWhole? = some number := by
  cases value with
  | integer held => exact ⟨held.toInt, rfl⟩
  | bigint held => exact ⟨held.toInt, rfl⟩
  | _ => cases whole

/-- A whole number converts to the same number as a decimal one. -/
theorem decimal_of_isWhole (whole : value.type.isWhole = true)
    (counts : value.toWhole? = some number) :
    ∃ wide, value.convertTo .decimal = .ok (decimal wide) ∧ wide.IsWhole number := by
  cases value with
  | integer held =>
      cases counts
      refine ⟨Decimal.ofInt64 held.toInt64, rfl, ?_⟩
      have wide := Decimal.isWhole_ofInt64 held.toInt64
      rw [Int32.toInt_toInt64] at wide
      exact wide
  | bigint held =>
      cases counts
      exact ⟨Decimal.ofInt64 held, rfl, Decimal.isWhole_ofInt64 held⟩
  | _ => cases whole

/-- A value that takes the place of a whole number or `NULL` where arithmetic is forced to be
decimal: the same number as a decimal number, or `NULL`. -/
inductive Widens : Value → Value → Prop
  | null : Widens null null
  | decimal {value : Value} {wide : Decimal} {number : Int} (whole : value.type.isWhole = true)
      (counts : value.toWhole? = some number) (same : wide.IsWhole number) :
      Widens value (decimal wide)

variable {value' left' right' : Value} {mode : Mode}

/-- Whether a value is a whole number or `NULL`. -/
def IsWholeOrNull (value : Value) : Prop :=
  value = .null ∨ value.type.isWhole = true

theorem Widens.holds (widens : value.Widens value') : value.IsWholeOrNull := by
  cases widens with
  | null => exact .inl rfl
  | decimal whole _ _ => exact .inr whole

/-- Converted to be decimal, a value takes the place of the value converted to a whole type. -/
theorem widens_convertTo (whole : value.IsWholeOrNull) (target : type.isWhole = true)
    (place : value' = value ∨ value.Widens value') (converts : value.convertTo type = .ok result) :
    ∃ result', value'.convertTo .decimal = .ok result' ∧ result.Widens result' ∧
      (result = .null ∨ result.type = type) := by
  rcases whole with rfl | whole
  · rw [convertTo_null] at converts
    cases converts
    rcases place with rfl | widens
    · exact ⟨.null, convertTo_null, .null, .inl rfl⟩
    · cases widens with
      | null => exact ⟨.null, convertTo_null, .null, .inl rfl⟩
      | decimal whole _ _ => cases whole
  · have present := isNull_of_isWhole whole
    have typed := DataType.isUntyped_of_isWhole target
    have resultType := convertTo_type_of_present present typed converts
    have resultWhole : result.type.isWhole = true := by
      rw [resultType]
      exact target
    rcases place with rfl | widens
    · obtain ⟨number, counts⟩ := exists_of_isWhole whole
      obtain ⟨wide, widens, same⟩ := decimal_of_isWhole whole counts
      have resultCounts := whole_of_convertTo whole target counts converts
      exact ⟨.decimal wide, widens, .decimal resultWhole resultCounts same, .inr resultType⟩
    · cases widens with
      | null => cases present
      | decimal _ counts same =>
          have resultCounts := whole_of_convertTo whole target counts converts
          exact ⟨_, rfl, .decimal resultWhole resultCounts same, .inr resultType⟩

/-- What takes the place of a value is negated like it. -/
theorem widens_negate (widens : value.Widens value') (negates : value.negate = .ok result) :
    ∃ result', value'.negate = .ok result' ∧ result.Widens result' := by
  cases widens with
  | null =>
      cases negates
      exact ⟨.null, rfl, .null⟩
  | @decimal _ wide number whole counts same =>
      have resultWhole : result.type.isWhole = true := by
        rw [negate_type negates]
        exact whole
      exact ⟨.decimal wide.negate, rfl,
        .decimal resultWhole (whole_of_negate whole counts negates) same.negate⟩

/-- Arithmetic other than division has the same result on decimal numbers. -/
theorem widens_arith {wide wide' : Decimal} (noQuotient : op ≠ .divide)
    (whole : type.isWhole = true) (leftType : left.type = type) (rightType : right.type = type)
    (leftIs : left.toWhole? = some number) (rightIs : right.toWhole? = some other)
    (leftSame : wide.IsWhole number) (rightSame : wide'.IsWhole other)
    (computes : left.arith op right = .ok result) :
    ∃ result', (decimal wide).arith op (decimal wide') = .ok result' ∧ result.Widens result' := by
  obtain ⟨nonzero, exactly⟩ := whole_of_arith whole leftType rightType leftIs rightIs computes
  have resultWhole : result.type.isWhole = true := by
    rw [arith_type computes, leftType]
    exact whole
  have divides : op = .modulus → other ≠ 0 := by
    rintro rfl
    exact nonzero rfl
  obtain ⟨held, isHeld, same⟩ :=
    leftSame.onDecimals? rightSame noQuotient divides (natAbs_lt_of_isWhole resultWhole exactly)
  have divisor : (op.divides && wide'.isZero) = false := by
    cases isDivision : op.divides with
    | false => rfl
    | true =>
        refine Bool.eq_false_iff.mpr fun isZero => ?_
        exact nonzero isDivision (rightSame.isZero_iff.mp isZero)
  refine ⟨decimal held, ?_, .decimal resultWhole exactly same⟩
  simp only [arith, unlessDivisor, divisor, Bool.false_eq_true, ↓reduceIte, isHeld,
    Option.map_some, orOverflow]

/-- An operation on operands that are widened has a widened result, be it `NULL` or a number. -/
theorem widens_combine (noQuotient : op ≠ .divide) (whole : type.isWhole = true)
    (leftType : left = .null ∨ left.type = type) (rightType : right = .null ∨ right.type = type)
    (leftWidens : left.Widens left') (rightWidens : right.Widens right')
    (combines : (BinaryOp.arith op).combine mode left right = .ok result) (other : Mode) :
    ∃ result', (BinaryOp.arith op).combine other left' right' = .ok result' ∧
      result.Widens result' := by
  cases leftWidens with
  | null =>
      cases combines
      exact ⟨.null, rfl, .null⟩
  | decimal leftWhole leftIs leftSame =>
      cases rightWidens with
      | null =>
          simp only [BinaryOp.combine, isNull, Bool.or_true, ↓reduceIte] at combines
          cases combines
          exact ⟨.null, rfl, .null⟩
      | decimal rightWhole rightIs rightSame =>
          simp only [BinaryOp.combine, isNull_of_isWhole leftWhole, isNull_of_isWhole rightWhole,
            Bool.or_self, Bool.false_eq_true, ↓reduceIte] at combines
          have leftIsType := leftType.resolve_left (by rintro rfl; cases leftWhole)
          have rightIsType := rightType.resolve_left (by rintro rfl; cases rightWhole)
          exact widens_arith noQuotient whole leftIsType rightIsType leftIs rightIs leftSame
            rightSame combines

end Value

end SqlScalar
