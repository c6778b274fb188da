import SqlScalar.Proofs.OppositeCounts
import SqlScalar.Value.Arithmetic

/-! # Whole decimal numbers

A decimal number without digits behind the point is as good as an integer: as long as the exact
result has a mantissa, every operation but division has that result, again without digits behind
the point.
-/

namespace SqlScalar.Decimal

/-- A decimal number without digits behind the point that is equal to an integer. A zero may have
either sign. -/
structure IsWhole (number : Decimal) (whole : Int) : Prop where
  scale : number.scale = 0
  signed : number.signed = whole

variable {left right : Decimal} {a b : Int}

theorem natAbs_signed (number : Decimal) : number.signed.natAbs = number.mantissa := by
  unfold signed
  split
  · rw [Int.natAbs_neg, Int.natAbs_natCast]
  · rw [Int.natAbs_natCast]

/-- Numbers of different signs have a negative product. -/
theorem signed_mul (left right : Decimal) :
    left.signed * right.signed =
      if left.negative != right.negative then -((left.mantissa * right.mantissa : Nat) : Int)
      else (left.mantissa * right.mantissa : Nat) := by
  unfold signed
  cases left.negative <;> cases right.negative <;>
    simp only [Bool.false_eq_true, ↓reduceIte, bne_self_eq_false, Bool.bne_true, Bool.not_false,
      Bool.bne_false, Int.natCast_mul, Int.neg_mul, Int.mul_neg, Int.neg_neg]

/-- A remainder takes its sign from the dividend. -/
theorem signed_tmod (number : Decimal) (divisor : Int) :
    number.signed.tmod divisor =
      if number.negative then -((number.mantissa % divisor.natAbs : Nat) : Int)
      else (number.mantissa % divisor.natAbs : Nat) := by
  have magnitude : (number.mantissa : Int).tmod divisor =
      (number.mantissa % divisor.natAbs : Nat) := by
    rcases Int.natAbs_eq divisor with positive | negative
    · rw [positive, Int.natAbs_natCast, Int.ofNat_tmod]
    · rw [negative, Int.natAbs_neg, Int.natAbs_natCast, Int.tmod_neg, Int.ofNat_tmod]
  unfold signed
  cases number.negative with
  | false => exact magnitude
  | true => exact (Int.neg_tmod _ _).trans (congrArg Neg.neg magnitude)

theorem isWhole_ofInt64 (number : Int64) : (ofInt64 number).IsWhole number.toInt := by
  refine ⟨rfl, ?_⟩
  simp only [signed, ofInt64, decide_eq_true_eq]
  split <;> omega

theorem isWhole_zero : zero.IsWhole 0 :=
  ⟨rfl, rfl⟩

namespace IsWhole

theorem mantissa (whole : left.IsWhole a) : left.mantissa = a.natAbs := by
  rw [← whole.signed, natAbs_signed]

theorem isZero_iff (whole : left.IsWhole a) : left.isZero = true ↔ a = 0 := by
  rw [isZero, decide_eq_true_eq, whole.mantissa, Int.natAbs_eq_zero]

theorem negate (whole : left.IsWhole a) : left.negate.IsWhole (-a) :=
  ⟨whole.scale, by rw [signed_negate, whole.signed]⟩

/-- Without digits behind the point, the value is counted in ones. -/
theorem signedAt (whole : left.IsWhole a) : left.signedAt 0 = a := by
  rw [Decimal.signedAt, whole.scale, whole.signed, Nat.sub_self, Int.pow_zero, Int.mul_one]

theorem magnitudeAt (whole : left.IsWhole a) : left.magnitudeAt 0 = a.natAbs := by
  rw [Decimal.magnitudeAt, whole.scale, whole.mantissa, Nat.sub_self, Nat.pow_zero, Nat.mul_one]

end IsWhole

/-- A sign and digits that are in range make up a number. -/
theorem exists_signed_ofResult? (negative : Bool) {mantissa scale : Nat}
    (small : mantissa < mantissaLimit) (room : scale ≤ maxScale) :
    ∃ number, ofResult? negative mantissa scale = some number ∧ number.scale = scale ∧
      number.signed = if negative then -(mantissa : Int) else mantissa := by
  refine ⟨_, dif_pos ⟨small, room⟩, rfl, ?_⟩
  cases negative with
  | false => rfl
  | true =>
      by_cases isZero : mantissa = 0
      · subst isZero
        rfl
      · simp only [signed, Bool.true_and, bne_iff_ne.mpr isZero, ↓reduceIte]

/-- Digits that fit make a whole decimal number. -/
theorem exists_isWhole_ofResult (negative : Bool) {mantissa : Nat}
    (small : mantissa < mantissaLimit) :
    ∃ number, ofResult? negative mantissa 0 = some number ∧
      number.IsWhole (if negative then -mantissa else mantissa) := by
  obtain ⟨number, isResult, scale, signed⟩ :=
    exists_signed_ofResult? negative small (Nat.zero_le _)
  exact ⟨number, isResult, scale, signed⟩

/-- Nothing is rounded away where nothing is behind the point. -/
theorem fit?_whole (negative : Bool) (mantissa : Nat) :
    fit? negative mantissa 0 0 = ofResult? negative mantissa 0 := by
  have unrounded : roundHalfEven mantissa 1 = mantissa := by
    unfold roundHalfEven
    simp only [Nat.div_one, Nat.mod_one]
    rfl
  change List.findSome? _ [0] = _
  simp only [List.findSome?_cons, List.findSome?_nil, Nat.le_refl, ↓reduceIte, Nat.pow_zero,
    unrounded, Nat.sub_self]
  cases ofResult? negative mantissa 0 <;> rfl

/-- An integer whose digits fit makes a whole decimal number. -/
theorem exists_isWhole_fit {whole : Int} (small : whole.natAbs < mantissaLimit) :
    ∃ number, fit? (whole < 0) whole.natAbs 0 0 = some number ∧ number.IsWhole whole := by
  obtain ⟨number, fits, isWhole⟩ := exists_isWhole_ofResult (decide (whole < 0)) small
  have signedIs : (if decide (whole < 0) then -(whole.natAbs : Int) else whole.natAbs) = whole := by
    by_cases negative : whole < 0
    · simp only [negative, decide_true, ↓reduceIte]
      omega
    · simp only [negative, decide_false, Bool.false_eq_true, ↓reduceIte]
      omega
  rw [signedIs] at isWhole
  exact ⟨number, (fit?_whole _ _).trans fits, isWhole⟩

namespace IsWhole

variable (leftWhole : left.IsWhole a) (rightWhole : right.IsWhole b)

include leftWhole rightWhole

/-- The sum of whole decimal numbers is exact if its digits fit. -/
theorem sum? (small : (a + b).natAbs < mantissaLimit) :
    ∃ number, left.sum? right = some number ∧ number.IsWhole (a + b) := by
  have scale : max left.scale right.scale = 0 := by
    rw [leftWhole.scale, rightWhole.scale]
    rfl
  simp only [Decimal.sum?, scale, leftWhole.signedAt, rightWhole.signedAt]
  exact exists_isWhole_fit small

/-- Adding whole decimal numbers is exact if the digits fit. -/
theorem add? (small : (a + b).natAbs < mantissaLimit) :
    ∃ number, left.add? right = some number ∧ number.IsWhole (a + b) := by
  unfold Decimal.add?
  by_cases leftZero : left.isZero = true
  · rw [if_pos leftZero, leftWhole.isZero_iff.mp leftZero, Int.zero_add]
    exact ⟨right, rfl, rightWhole⟩
  · rw [if_neg leftZero]
    by_cases rightZero : right.isZero = true
    · rw [if_pos rightZero, rightWhole.isZero_iff.mp rightZero, Int.add_zero]
      exact ⟨left, rfl, leftWhole⟩
    · rw [if_neg rightZero]
      exact leftWhole.sum? rightWhole small

/-- Subtracting whole decimal numbers is exact if the digits fit. -/
theorem subtract? (small : (a - b).natAbs < mantissaLimit) :
    ∃ number, left.subtract? right = some number ∧ number.IsWhole (a - b) := by
  unfold Decimal.subtract?
  by_cases rightZero : right.isZero = true
  · have isZero := rightWhole.isZero_iff.mp rightZero
    rw [if_pos rightZero, isZero, Int.sub_zero]
    refine ⟨_, rfl, ?_⟩
    by_cases leftZero : left.isZero = true
    · rw [if_pos leftZero, leftWhole.isZero_iff.mp leftZero, ← isZero]
      exact rightWhole
    · rw [if_neg leftZero]
      exact leftWhole
  · rw [if_neg rightZero]
    by_cases leftZero : left.isZero = true
    · rw [if_pos leftZero, leftWhole.isZero_iff.mp leftZero, Int.zero_sub]
      exact ⟨right.negate, rfl, rightWhole.negate⟩
    · rw [if_neg leftZero]
      exact leftWhole.sum? rightWhole.negate small

/-- Multiplying whole decimal numbers is exact if the digits fit. -/
theorem multiply? (small : (a * b).natAbs < mantissaLimit) :
    ∃ number, left.multiply? right = some number ∧ number.IsWhole (a * b) := by
  have scale : left.scale + right.scale = 0 := by rw [leftWhole.scale, rightWhole.scale]
  simp only [Decimal.multiply?, scale, Bool.or_eq_true, Nat.not_lt_zero, and_false, ↓reduceIte]
  by_cases isZero : left.isZero = true ∨ right.isZero = true
  · rw [if_pos isZero]
    refine ⟨zero, rfl, ?_⟩
    rcases isZero with leftZero | rightZero
    · rw [leftWhole.isZero_iff.mp leftZero, Int.zero_mul]
      exact isWhole_zero
    · rw [rightWhole.isZero_iff.mp rightZero, Int.mul_zero]
      exact isWhole_zero
  · rw [if_neg isZero]
    have fits : left.mantissa * right.mantissa < mantissaLimit := by
      rw [leftWhole.mantissa, rightWhole.mantissa, ← Int.natAbs_mul]
      exact small
    obtain ⟨number, isResult, isWhole⟩ :=
      exists_isWhole_ofResult (left.negative != right.negative) fits
    refine ⟨number, (fit?_whole _ _).trans isResult, ?_⟩
    rw [← signed_mul, leftWhole.signed, rightWhole.signed] at isWhole
    exact isWhole

/-- The remainder of whole decimal numbers is exact, with the sign of the dividend. -/
theorem remainder? (divides : b ≠ 0) :
    ∃ number, left.remainder? right = some number ∧ number.IsWhole (a.tmod b) := by
  have scale : max left.scale right.scale = 0 := by
    rw [leftWhole.scale, rightWhole.scale]
    rfl
  have nonzero : ¬ right.isZero = true := mt rightWhole.isZero_iff.mp divides
  have signedIs := left.signed_tmod b
  rw [leftWhole.signed] at signedIs
  rw [signedIs]
  simp only [Decimal.remainder?, scale, leftWhole.magnitudeAt, rightWhole.magnitudeAt,
    if_neg nonzero, ← leftWhole.mantissa]
  by_cases none : left.isZero = true ∨ left.mantissa = b.natAbs
  · rw [if_pos none]
    have noRest : left.mantissa % b.natAbs = 0 := by
      rcases none with leftZero | same
      · rw [leftWhole.mantissa, leftWhole.isZero_iff.mp leftZero]
        exact Nat.zero_mod _
      · rw [same, Nat.mod_self]
    rw [noRest]
    simp only [Int.natCast_zero, Int.neg_zero, ite_self]
    exact ⟨zero, rfl, isWhole_zero⟩
  · rw [if_neg none]
    by_cases less : left.mantissa < b.natAbs
    · rw [if_pos less, Nat.mod_eq_of_lt less]
      exact ⟨left, rfl, leftWhole.scale, rfl⟩
    · rw [if_neg less]
      exact exists_isWhole_ofResult _ (Nat.lt_of_le_of_lt (Nat.mod_le _ _) left.mantissa_lt)

/-- Every operation but division has the result that integers have. -/
theorem onDecimals? {op : ArithOp} (noQuotient : op ≠ .divide) (divides : op = .modulus → b ≠ 0)
    (small : (op.exact a b).natAbs < mantissaLimit) :
    ∃ number, op.onDecimals? left right = some number ∧ number.IsWhole (op.exact a b) := by
  cases op with
  | plus => exact leftWhole.add? rightWhole small
  | minus => exact leftWhole.subtract? rightWhole small
  | multiply => exact leftWhole.multiply? rightWhole small
  | divide => exact absurd rfl noQuotient
  | modulus => exact leftWhole.remainder? rightWhole (divides rfl)

end IsWhole

end SqlScalar.Decimal
