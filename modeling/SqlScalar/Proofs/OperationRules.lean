import SqlScalar.Proofs.NodeRules

/-! # Operation rules

`Resolution.Rewrites` lists everything an operation on resolved operands can become, and
`Resolution.operation_rewrites` shows that the list is complete. `Resolution.Stays` tells
which operations become themselves.
-/

namespace SqlScalar

open Calendar

namespace Resolution

/-- The sums and differences of temporal operands that stay operations, by the types of the
operands, with the type of the operation. -/
inductive Keeps : ArithOp → DataType → DataType → DataType → Prop
  | sumOfTimes : Keeps .plus .time .time .time
  | anchoredSum {right : DataType} (ranked : DataType.preferred .time right = right)
      (other : right ≠ .time) : Keeps .plus .time right .timestamp
  | differenceOfTimes : Keeps .minus .time .time .time
  | anchoredDifference {left : DataType} (dated : left.hasDate = true) :
      Keeps .minus left .time .timestamp

/-- Whether the operands of a temporal operation have to change places. -/
def Reversed (op : ArithOp) (left right : DataType) : Prop :=
  op = .plus ∧ DataType.preferred left right ≠ right ∨
    op = .multiply ∧ left ≠ .time ∧ right = .time

/-- What resolution makes of an operation on resolved operands. -/
inductive Rewrites (mode : Mode) : BinaryOp → Expr → Expr → Bool → Expr → Prop
  | folds {op settled a b converts type value} (plain : Plain op a.type b.type)
      (planned : plan mode op a.type b.type = .ok (settled, type))
      (evaluates : settled.evaluate mode type converts (.ok a) (.ok b) = .ok value) :
      Rewrites mode op (.literal a) (.literal b) converts (.literal value)
  | settles {op settled left right converts type} (plain : Plain op left.type right.type)
      (planned : plan mode op left.type right.type = .ok (settled, type))
      (varying : foldable left right = false) :
      Rewrites mode op left right converts (.binary settled left right (some type) converts)
  | keeps {op left right converts type} (kept : Keeps op left.type right.type type) :
      Rewrites mode (.arith op) left right converts
        (.binary (.arith op) left right (some type) converts)
  /-- A time of day is scaled by a factor that keeps its type. -/
  | scales {op left right converts} (scaling : op = .multiply ∨ op = .divide)
      (isTime : left.type = .time) :
      Rewrites mode (.arith op) left right converts
        (.binary (.arith op) left right (some .time) false)
  | swaps {op left right converts result} (reversed : Reversed op left.type right.type)
      (rewrites : Rewrites mode (.arith op) right left converts result) :
      Rewrites mode (.arith op) left right converts result
  | addsDays {left right converts result} (days : left.type = .integer)
      (isTemporal : right.type.isTemporal = true)
      (calls : call .dateAdd (.string "DAY") left right = .ok result) :
      Rewrites mode (.arith .plus) left right converts result
  | addsSeconds {left right converts seconds result} (fraction : left.type.isFractional = true)
      (isTemporal : right.type.isTemporal = true)
      (scaled : numeric mode .multiply .daySeconds left true = .ok seconds)
      (calls : call .dateAdd (.string "SECOND") seconds right = .ok result) :
      Rewrites mode (.arith .plus) left right converts result
  | subtractsDays {left right converts days result} (dated : left.type.hasDate = true)
      (whole : right.type = .integer) (negated : negation right = .ok days)
      (calls : call .dateAdd (.string "DAY") days left = .ok result) :
      Rewrites mode (.arith .minus) left right converts result
  | subtractsSeconds {left right converts scaled seconds result}
      (dated : left.type.hasDate = true) (fraction : right.type.isFractional = true)
      (scales : numeric mode .multiply .daySeconds right true = .ok scaled)
      (negated : negation scaled = .ok seconds)
      (calls : call .dateAdd (.string "SECOND") seconds left = .ok result) :
      Rewrites mode (.arith .minus) left right converts result
  | countsDays {left right converts result} (leftDated : left.type.hasDate = true)
      (rightDated : right.type.hasDate = true)
      (calls : call .dateDiff (.string "DAY") right left = .ok result) :
      Rewrites mode (.arith .minus) left right converts result

/-- What keeps an operation as it is, with its type, when it is resolved again. -/
inductive Stays (mode : Mode) : BinaryOp → Expr → Expr → DataType → Bool → Prop
  | plain {op left right type converts} (plain : Plain op left.type right.type)
      (planned : plan mode op left.type right.type = .ok (op, type))
      (varying : foldable left right = false) : Stays mode op left right type converts
  | temporal {op left right type converts} (kept : Keeps op left.type right.type type) :
      Stays mode (.arith op) left right type converts
  | scaled {op left right} (scaling : op = .multiply ∨ op = .divide)
      (isTime : left.type = .time) : Stays mode (.arith op) left right .time false

variable {mode : Mode} {op settled : BinaryOp} {left right result : Expr} {converts : Bool}
  {type : DataType}

/-- A sum or difference of temporal operands that stays an operation is a time of day or a
timestamp. -/
theorem Keeps.type_eq {op : ArithOp} {leftType rightType : DataType}
    (kept : Keeps op leftType rightType type) : type = .time ∨ type = .timestamp := by
  cases kept with
  | sumOfTimes | differenceOfTimes => exact .inl rfl
  | anchoredSum | anchoredDifference => exact .inr rfl

/-- An operation without a temporal reading is planned and folded. -/
theorem operation_of_plain (plain : Plain op left.type right.type) :
    operation mode op left right converts = (do
      let (settled, type) ← plan mode op left.type right.type
      fold mode settled left right type converts) := by
  cases op with
  | concat => rfl
  | arith op =>
      obtain ⟨leftPlain, rightPlain⟩ := plain.resolve_left nofun
      simp only [operation, arithmetic, plan, leftPlain, rightPlain, Bool.or_self,
        Bool.false_eq_true, ↓reduceIte]
      split
      · unfold untyped
        split
        · rfl
        · rfl
      · unfold numeric
        cases DataType.promote left.type right.type with
        | error failure => rfl
        | ok common =>
            change (if common.isString && mode.plusConcatenates then _ else _) =
              (if common.isString && mode.plusConcatenates then _ else _ : Outcome _) >>= _
            split
            · rfl
            · rfl

/-- An operation has no temporal reading, or is arithmetic on a temporal operand. -/
theorem plain_or_temporal (op : BinaryOp) (left right : DataType) :
    Plain op left right ∨
      ∃ arith, op = .arith arith ∧ (left.isTemporal = true ∨ right.isTemporal = true) := by
  cases op with
  | concat => exact .inl (.inl rfl)
  | arith op =>
      rcases Bool.eq_false_or_eq_true left.isTemporal with leftTemporal | leftPlain
      · exact .inr ⟨op, rfl, .inl leftTemporal⟩
      · rcases Bool.eq_false_or_eq_true right.isTemporal with rightTemporal | rightPlain
        · exact .inr ⟨op, rfl, .inr rightTemporal⟩
        · exact .inl (.inr ⟨leftPlain, rightPlain⟩)

/-- Arithmetic with a temporal operand has a temporal reading. -/
theorem not_plain {op : ArithOp} {leftType rightType : DataType}
    (isTemporal : leftType.isTemporal = true ∨ rightType.isTemporal = true) :
    ¬ Plain (.arith op) leftType rightType := by
  intro plain
  obtain ⟨leftPlain, rightPlain⟩ := plain.resolve_left nofun
  rw [leftPlain, rightPlain] at isTemporal
  rcases isTemporal with isTemporal | isTemporal <;> cases isTemporal

/-- Arithmetic on a temporal operand is resolved by the temporal rules. -/
theorem operation_of_temporal {op : ArithOp}
    (isTemporal : left.type.isTemporal = true ∨ right.type.isTemporal = true) :
    operation mode (.arith op) left right converts = temporal mode op left right converts := by
  have typed : ¬ (left.type = right.type ∧ left.type.isUntyped = true) := by
    rintro ⟨same, untyped⟩
    have plain := DataType.isTemporal_eq_false_of_isUntyped untyped
    rcases isTemporal with isTemporal | isTemporal
    · rw [plain] at isTemporal; cases isTemporal
    · rw [← same, plain] at isTemporal; cases isTemporal
  have either : (left.type.isTemporal || right.type.isTemporal) = true :=
    (Bool.or_eq_true _ _).mpr isTemporal
  simp only [operation, arithmetic, typed, either, ↓reduceIte]

/-- A sum of ordered operands one of which is temporal becomes a call or stays a sum. -/
theorem orderedSum_rewrites
    (isTemporal : left.type.isTemporal = true ∨ right.type.isTemporal = true)
    (ordered : DataType.preferred left.type right.type = right.type)
    (resolves : orderedSum mode left right converts = .ok result) :
    Rewrites mode (.arith .plus) left right converts result := by
  unfold orderedSum at resolves
  simp only at resolves
  split at resolves
  · rename_i days
    have rightTemporal := isTemporal.resolve_left (by rw [days]; nofun)
    exact .addsDays days rightTemporal resolves
  · split at resolves
    · rename_i fraction
      have leftPlain : left.type.isTemporal ≠ true := by
        rw [DataType.isTemporal_eq_false_of_isFractional fraction]
        nofun
      obtain ⟨seconds, scaled, calls⟩ := bind_eq_ok.mp resolves
      exact .addsSeconds fraction (isTemporal.resolve_left leftPlain) scaled calls
    · split at resolves
      · rename_i leftTime
        split at resolves
        · rename_i rightTime
          cases resolves
          exact .keeps (by rw [leftTime, rightTime]; exact .sumOfTimes)
        · rename_i rightOther
          cases resolves
          rw [leftTime] at ordered
          exact .keeps (by rw [leftTime]; exact .anchoredSum ordered rightOther)
      · cases resolves

/-- A sum with a temporal operand is made into what the rewrites say. -/
theorem temporalSum_rewrites
    (isTemporal : left.type.isTemporal = true ∨ right.type.isTemporal = true)
    (resolves : temporalSum mode left right converts = .ok result) :
    Rewrites mode (.arith .plus) left right converts result := by
  unfold temporalSum at resolves
  split at resolves
  · rename_i ordered
    exact orderedSum_rewrites isTemporal ordered resolves
  · rename_i unordered
    -- The left operand is preferred, and stays so once the operands have changed places.
    have ordered : DataType.preferred right.type left.type = left.type := by
      unfold DataType.preferred at unordered ⊢
      split at unordered
      · rename_i below
        rw [if_neg (by omega)]
      · exact absurd rfl unordered
    exact .swaps (.inl ⟨rfl, unordered⟩) (orderedSum_rewrites isTemporal.symm ordered resolves)

/-- A difference with a temporal operand is made into what the rewrites say. -/
theorem temporalDifference_rewrites
    (resolves : temporalDifference mode left right converts = .ok result) :
    Rewrites mode (.arith .minus) left right converts result := by
  unfold temporalDifference at resolves
  simp only at resolves
  split at resolves
  · rename_i dated
    split at resolves
    · rename_i whole
      obtain ⟨days, negated, calls⟩ := bind_eq_ok.mp resolves
      exact .subtractsDays dated whole negated calls
    · split at resolves
      · rename_i fraction
        obtain ⟨scaled, scales, resolves⟩ := bind_eq_ok.mp resolves
        obtain ⟨seconds, negated, calls⟩ := bind_eq_ok.mp resolves
        exact .subtractsSeconds dated fraction scales negated calls
      · split at resolves
        · rename_i rightTime
          cases resolves
          exact .keeps (by rw [rightTime]; exact .anchoredDifference dated)
        · split at resolves
          · rename_i rightDated
            exact .countsDays dated rightDated resolves
          · cases resolves
  · split at resolves
    · rename_i times
      cases resolves
      exact .keeps (by rw [times.1, times.2]; exact .differenceOfTimes)
    · cases resolves

/-- Every operation that resolves is rewritten in one of the listed ways. -/
theorem operation_rewrites (resolves : operation mode op left right converts = .ok result) :
    Rewrites mode op left right converts result := by
  rcases plain_or_temporal op left.type right.type with plain | ⟨op, rfl, isTemporal⟩
  · rw [operation_of_plain plain] at resolves
    obtain ⟨⟨settled, type⟩, planned, folds⟩ := bind_eq_ok.mp resolves
    rcases fold_eq_ok folds with ⟨a, b, value, rfl, rfl, evaluates, rfl⟩ | ⟨varying, rfl⟩
    · exact .folds plain planned evaluates
    · exact .settles plain planned varying
  · rw [operation_of_temporal isTemporal] at resolves
    cases op with
    | plus => exact temporalSum_rewrites isTemporal resolves
    | minus => exact temporalDifference_rewrites resolves
    | multiply =>
        simp only [temporal] at resolves
        split at resolves
        · rename_i leftTime
          cases resolves
          exact .scales (.inl rfl) leftTime
        · rename_i leftOther
          split at resolves
          · rename_i rightTime
            cases resolves
            exact .swaps (.inr ⟨rfl, leftOther, rightTime⟩) (.scales (.inl rfl) rightTime)
          · cases resolves
    | divide =>
        simp only [temporal] at resolves
        split at resolves
        · rename_i leftTime
          cases resolves
          exact .scales (.inr rfl) leftTime
        · cases resolves
    | modulus => cases resolves

/-- A temporal sum or difference that stays an operation does so whenever its operands have
these types. -/
theorem operation_of_keeps {op : ArithOp} (kept : Keeps op left.type right.type type) :
    operation mode (.arith op) left right converts =
      .ok (.binary (.arith op) left right (some type) converts) := by
  generalize leftType : left.type = leftType at kept
  generalize rightType : right.type = rightType at kept
  cases kept with
  | sumOfTimes =>
      rw [operation_of_temporal (.inl (by rw [leftType]; rfl))]
      simp only [temporal, temporalSum, leftType, rightType, DataType.preferred, DataType.rank,
        Nat.lt_irrefl, ↓reduceIte, orderedSum, reduceCtorEq, DataType.isFractional,
        Bool.false_eq_true]
  | anchoredSum ranked other =>
      rw [operation_of_temporal (.inl (by rw [leftType]; rfl))]
      simp only [temporal, temporalSum, leftType, rightType, ranked, other, ↓reduceIte,
        orderedSum, reduceCtorEq, DataType.isFractional, Bool.false_eq_true]
  | differenceOfTimes =>
      rw [operation_of_temporal (.inl (by rw [leftType]; rfl))]
      simp only [temporal, temporalDifference, leftType, rightType, DataType.hasDate,
        Bool.false_eq_true, ↓reduceIte, and_self]
  | anchoredDifference dated =>
      rw [operation_of_temporal (.inr (by rw [rightType]; rfl))]
      simp only [temporal, temporalDifference, leftType, rightType, dated, ↓reduceIte,
        reduceCtorEq, DataType.isFractional, Bool.false_eq_true]

/-- A time of day on the left is scaled and does not change places. -/
theorem operation_of_scales {op : ArithOp} (scaling : op = .multiply ∨ op = .divide)
    (isTime : left.type = .time) :
    operation mode (.arith op) left right converts =
      .ok (.binary (.arith op) left right (some .time) false) := by
  rw [operation_of_temporal (.inl (by rw [isTime]; rfl))]
  rcases scaling with rfl | rfl
  · simp only [temporal, isTime, ↓reduceIte, scaled]
  · simp only [temporal, isTime, ↓reduceIte, scaled]

/-- A time of day on the right is put first to be multiplied. -/
theorem operation_of_factor (leftOther : left.type ≠ .time) (rightTime : right.type = .time) :
    operation mode (.arith .multiply) left right true =
      .ok (.binary (.arith .multiply) right left (some .time) false) := by
  rw [operation_of_temporal (.inr (by rw [rightTime]; rfl))]
  simp only [temporal, leftOther, rightTime, ↓reduceIte, scaled]

/-- An operation that has what keeps it as it is stays the same. -/
theorem operation_of_stays (stays : Stays mode op left right type converts) :
    operation mode op left right converts = .ok (.binary op left right (some type) converts) := by
  cases stays with
  | plain plain planned varying =>
      rw [operation_of_plain plain, planned]
      exact fold_of_not_foldable varying
  | temporal kept => exact operation_of_keeps kept
  | scaled scaling isTime => exact operation_of_scales scaling isTime

/-- Days are scaled to seconds by an ordinary product. -/
theorem numeric_daySeconds {days : Expr} (fraction : days.type.isFractional = true) :
    numeric mode .multiply .daySeconds days true =
      operation mode (.arith .multiply) .daySeconds days true := by
  have dayPlain : Expr.daySeconds.type.isTemporal = false := rfl
  have plain := DataType.isTemporal_eq_false_of_isFractional fraction
  have typed : ¬ (Expr.daySeconds.type = days.type ∧ Expr.daySeconds.type.isUntyped = true) := by
    rintro ⟨_, untyped⟩
    cases untyped
  simp only [operation, arithmetic, typed, dayPlain, plain, Bool.or_self, Bool.false_eq_true,
    ↓reduceIte]

/-- The product of a number of days and the seconds of a day has no temporal reading. -/
theorem plain_daySeconds {days : Expr} (fraction : days.type.isFractional = true) :
    Plain (.arith .multiply) Expr.daySeconds.type days.type :=
  .inr ⟨rfl, DataType.isTemporal_eq_false_of_isFractional fraction⟩

/-- The number of seconds is a constant if the number of days is one, and a product of the
planned type otherwise. -/
theorem daySeconds_eq_ok {days seconds : Expr} (fraction : days.type.isFractional = true)
    (scaled : numeric mode .multiply .daySeconds days true = .ok seconds) :
    ∃ settled type, plan mode (.arith .multiply) .integer days.type = .ok (settled, type) ∧
      ((∃ b value, days = .literal b ∧
        settled.evaluate mode type true (.ok (.integer 86400)) (.ok b) = .ok value ∧
        seconds = .literal value) ∨
      days.isConstant = false ∧ seconds = .binary settled .daySeconds days (some type) true) := by
  rw [numeric_daySeconds fraction, operation_of_plain (plain_daySeconds fraction)] at scaled
  obtain ⟨⟨settled, type⟩, planned, folds⟩ := bind_eq_ok.mp scaled
  refine ⟨settled, type, planned, ?_⟩
  rcases fold_eq_ok folds with ⟨a, b, value, isDay, daysAre, evaluates, isValue⟩ | ⟨varying, same⟩
  · cases isDay
    exact .inl ⟨b, value, daysAre, evaluates, isValue⟩
  · exact .inr ⟨varying, same⟩

/-- The seconds in a number of days that is no constant are no constant. -/
theorem isConstant_daySeconds {days seconds : Expr} (fraction : days.type.isFractional = true)
    (varying : days.isConstant = false)
    (scaled : numeric mode .multiply .daySeconds days true = .ok seconds) :
    seconds.isConstant = false := by
  obtain ⟨settled, type, _, ⟨_, _, rfl, _⟩ | ⟨_, rfl⟩⟩ := daySeconds_eq_ok fraction scaled
  · cases varying
  · rfl

/-- An operation becomes a constant only if both operands are constants. -/
theorem isConstant_of_rewrites (rewrites : Rewrites mode op left right converts result)
    (varying : foldable left right = false) : result.isConstant = false := by
  induction rewrites with
  | folds => cases varying
  | settles | keeps | scales => rfl
  | swaps _ _ ih => exact ih ((Bool.and_comm _ _).trans varying)
  | addsDays _ _ calls => exact isConstant_of_call varying calls
  | @addsSeconds left right _ seconds _ fraction _ scaled calls =>
      refine isConstant_of_call ?_ calls
      rcases Bool.and_eq_false_iff.mp varying with leftVarying | rightVarying
      · have secondsVarying := isConstant_daySeconds fraction leftVarying scaled
        exact Bool.and_eq_false_iff.mpr (.inl secondsVarying)
      · exact Bool.and_eq_false_iff.mpr (.inr rightVarying)
  | subtractsDays _ _ negated calls =>
      refine isConstant_of_call ?_ calls
      rcases Bool.and_eq_false_iff.mp varying with leftVarying | rightVarying
      · exact Bool.and_eq_false_iff.mpr (.inr leftVarying)
      · have daysVarying := isConstant_of_negation rightVarying negated
        exact Bool.and_eq_false_iff.mpr (.inl daysVarying)
  | subtractsSeconds _ fraction scales negated calls =>
      refine isConstant_of_call ?_ calls
      rcases Bool.and_eq_false_iff.mp varying with leftVarying | rightVarying
      · exact Bool.and_eq_false_iff.mpr (.inr leftVarying)
      · have scaledVarying := isConstant_daySeconds fraction rightVarying scales
        have secondsVarying := isConstant_of_negation scaledVarying negated
        exact Bool.and_eq_false_iff.mpr (.inl secondsVarying)
  | countsDays _ _ calls => exact isConstant_of_call ((Bool.and_comm _ _).trans varying) calls

end Resolution

end SqlScalar
