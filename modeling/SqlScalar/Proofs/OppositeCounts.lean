import SqlScalar.Proofs.DatedValues
import SqlScalar.Proofs.InstantLine

/-! # Opposite counts

Numbers are rounded half away from zero, so a negated number is rounded to the opposite of what
the number itself is rounded to. As a count of units, it moves an instant back to where the
number has moved it from.
-/

namespace SqlScalar

open Calendar

/-- Every integer of 32 bits but the least has an opposite. -/
theorem exists_narrow32?_neg {number : Int32}
    (bounded : Int32.minValue.toInt < number.toInt) :
    ∃ opposite, narrow32? (-number.toInt) = some opposite := by
  have upper := number.toInt_lt
  have fits : Int32.minValue.toInt ≤ -number.toInt ∧ -number.toInt ≤ Int32.maxValue.toInt := by
    rw [Int32.toInt_minValue] at bounded ⊢
    rw [Int32.toInt_maxValue]
    omega
  unfold narrow32?
  exact ⟨_, dif_pos fits⟩

/-- Any number of 64 bits has an opposite one, but for the least. -/
theorem exists_narrow64?_neg {number : Int64}
    (bounded : Int64.minValue.toInt < number.toInt) :
    ∃ opposite, narrow64? (-number.toInt) = some opposite := by
  have upper := number.toInt_lt
  have fits : Int64.minValue.toInt ≤ -number.toInt ∧ -number.toInt ≤ Int64.maxValue.toInt := by
    rw [Int64.toInt_minValue] at bounded ⊢
    rw [Int64.toInt_maxValue]
    omega
  unfold narrow64?
  exact ⟨_, dif_pos fits⟩

/-- Rounding half away from zero is odd. -/
theorem roundHalfAway_neg (numerator : Int) (denominator : Nat) (positive : 0 < denominator) :
    roundHalfAway (-numerator) denominator = -roundHalfAway numerator denominator := by
  unfold roundHalfAway
  rw [Int.natAbs_neg]
  rcases Int.lt_trichotomy numerator 0 with negative | rfl | isPositive
  · rw [if_neg (by omega), if_pos negative, Int.neg_neg]
  · -- Zero is its own opposite, so it must not be rounded up.
    have noneLeft : roundHalfUp 0 denominator = 0 := by
      unfold roundHalfUp
      exact Nat.div_eq_of_lt (by omega)
    simp only [Int.neg_zero, Int.lt_irrefl, ↓reduceIte, Int.natAbs_zero, noneLeft, Int.ofNat_zero]
  · rw [if_pos (by omega), if_neg (by omega)]

theorem Decimal.signed_negate (number : Decimal) : number.negate.signed = -number.signed := by
  unfold Decimal.signed Decimal.negate
  cases number.negative with
  | false => rfl
  | true => exact (Int.neg_neg _).symm

theorem Decimal.round_negate (number : Decimal) : number.negate.round = -number.round := by
  unfold Decimal.round
  rw [number.signed_negate]
  exact roundHalfAway_neg _ _ (Nat.pow_pos (by decide))

namespace Value

variable {number : Value} {count : Int64}

/-- A number converts to a `BIGINT` just if that is the integer it is rounded to. -/
theorem convertToWhole_bigint_eq_ok :
    number.convertToWhole .bigint (fun whole => (narrow64? whole).map bigint) =
      .ok (.bigint count) ↔ number.toWhole? = some count.toInt := by
  unfold convertToWhole
  cases number.toWhole? with
  | none => simp only [reduceCtorEq]
  | some whole =>
      have isCount : some whole = some count.toInt ↔ narrow64? whole = some count := by
        rw [narrow64?_eq_some, Option.some.injEq, eq_comm]
      rw [isCount]
      dsimp only
      cases narrow64? whole with
      | none => simp only [Option.map_none, reduceCtorEq]
      | some narrow => simp only [Option.map_some, Except.ok.injEq, bigint.injEq, Option.some.injEq]

/-- A value counts as the whole number it is rounded to, if that has 64 bits. -/
theorem convertTo_bigint_eq_ok :
    number.convertTo .bigint = .ok (.bigint count) ↔ number.toWhole? = some count.toInt := by
  by_cases isBigint : number.type = .bigint
  · cases number <;> cases isBigint
    rename_i held
    have unchanged : (bigint held).convertTo .bigint = .ok (bigint held) := rfl
    rw [unchanged, Except.ok.injEq, bigint.injEq, toWhole?, Option.some.injEq, Int64.toInt_inj]
  · by_cases absent : number.isNull = true
    · cases number <;> cases absent
      simp only [convertTo_null, toWhole?, reduceCtorEq, Except.ok.injEq]
    · have across : number.convertTo .bigint =
          number.convertToWhole .bigint fun whole => (narrow64? whole).map bigint := by
        unfold convertTo
        rw [if_neg (by simp only [isBigint, reduceCtorEq, or_self, not_false_eq_true]),
          if_neg absent]
        rfl
      rw [across]
      exact convertToWhole_bigint_eq_ok

/-- An integer or a decimal number that is not too far below zero for it can be negated, and
then counts the opposite. -/
theorem exists_opposite (exact : number.type = .integer ∨ number.type = .decimal)
    (counts : number.convertTo .bigint = .ok (.bigint count))
    (bounded : number.type = .integer → Int32.minValue.toInt < count.toInt)
    (wide : Int64.minValue.toInt < count.toInt) :
    ∃ negated opposite, number.negate = .ok negated ∧
      negated.convertTo .bigint = .ok (.bigint opposite) ∧ opposite.toInt = -count.toInt := by
  obtain ⟨opposite, fits⟩ := exists_narrow64?_neg wide
  have oppositeIs := narrow64?_eq_some.mp fits
  have whole := convertTo_bigint_eq_ok.mp counts
  cases number with
  | integer held =>
      have heldIs : held.toInt = count.toInt := Option.some.inj whole
      have heldBounded : Int32.minValue.toInt < held.toInt := by
        rw [heldIs]
        exact bounded rfl
      obtain ⟨negated, negates⟩ := exists_narrow32?_neg heldBounded
      refine ⟨.integer negated, opposite, ?_, ?_, oppositeIs⟩
      · simp only [negate, negates]
      · apply convertTo_bigint_eq_ok.mpr
        rw [oppositeIs, ← heldIs, ← narrow32?_eq_some.mp negates]
        rfl
  | decimal held =>
      have heldIs : held.round = count.toInt := Option.some.inj whole
      refine ⟨.decimal held.negate, opposite, rfl, ?_, oppositeIs⟩
      apply convertTo_bigint_eq_ok.mpr
      rw [oppositeIs, ← heldIs, ← held.round_negate]
      rfl
  | _ => rcases exact with isInteger | isDecimal <;> contradiction

end Value

end SqlScalar
