import SqlScalar.Proofs.ResolvedForm

/-! # Trees built by resolution

Arithmetic on dates is rewritten to calls of the date functions on operands that have been
resolved already. Resolving such a call as a whole, operands and all, has the same outcome as
the rule that takes the operands as they are.
-/

namespace SqlScalar

open Calendar

namespace Resolution

/-- A sum of ordered operands, the calls in it built and resolved as a whole. -/
def rebuiltSum (mode : Mode) (left right : Expr) (convertsRight : Bool) : Outcome Expr :=
  if left.type = .integer then
    (Expr.call .dateAdd (.string "DAY") left right none).resolve mode
  else if left.type.isFractional then
    let seconds := Expr.arith .multiply .daySeconds left
    (Expr.call .dateAdd (.string "SECOND") seconds right none).resolve mode
  else orderedSum mode left right convertsRight

/-- A difference with a temporal operand, the trees in it built and resolved as a whole. -/
def rebuiltDifference (mode : Mode) (left right : Expr) (convertsRight : Bool) :
    Outcome Expr :=
  if left.type.hasDate then
    if right.type = .integer then do
      let days ← (Expr.negated right).resolve mode
      (Expr.call .dateAdd (.string "DAY") days left none).resolve mode
    else if right.type.isFractional then do
      let seconds ← (Expr.negated (.arith .multiply .daySeconds right)).resolve mode
      (Expr.call .dateAdd (.string "SECOND") seconds left none).resolve mode
    else if right.type.hasDate then
      (Expr.call .dateDiff (.string "DAY") right left none).resolve mode
    else temporalDifference mode left right convertsRight
  else temporalDifference mode left right convertsRight

/-- Arithmetic on resolved operands, the trees built for temporal ones resolved as a whole. -/
def rebuilt (mode : Mode) (op : ArithOp) (left right : Expr) (convertsRight : Bool) :
    Outcome Expr :=
  if left.type.isTemporal || right.type.isTemporal then
    match op with
    | .plus =>
        if DataType.preferred left.type right.type = right.type then
          rebuiltSum mode left right convertsRight
        else rebuiltSum mode right left convertsRight
    | .minus => rebuiltDifference mode left right convertsRight
    | op => temporal mode op left right convertsRight
  else operation mode (.arith op) left right convertsRight

variable {mode : Mode} {left right : Expr} {converts : Bool}

/-- A call with resolved arguments is resolved as a whole just as if they were left alone. -/
theorem resolve_call_of_resolved {function : DateFunction} {named : Value} {first second : Expr}
    (firstResolved : Resolved mode first) (secondResolved : Resolved mode second) :
    (Expr.call function (.literal named) first second none).resolve mode =
      call function (.literal named) first second := by
  simp only [Expr.resolve, firstResolved.resolve_eq, secondResolved.resolve_eq]
  rfl

/-- A number of days that is resolved is turned into seconds as a whole just as if it were left
alone. -/
theorem resolve_daySeconds {days : Expr} (daysResolved : Resolved mode days)
    (fraction : days.type.isFractional = true) :
    (Expr.arith .multiply .daySeconds days).resolve mode =
      numeric mode .multiply .daySeconds days true := by
  rw [numeric_daySeconds fraction]
  change (days.resolve mode >>= fun days =>
    operation mode (.arith .multiply) .daySeconds days true) = _
  rw [daysResolved.resolve_eq]
  rfl

/-- An instant moved by the seconds in a number of days is resolved as a whole just as part by
part. -/
theorem resolve_call_of_daySeconds {days moved : Expr} (daysResolved : Resolved mode days)
    (movedResolved : Resolved mode moved) (fraction : days.type.isFractional = true) :
    (Expr.call .dateAdd (.string "SECOND") (.arith .multiply .daySeconds days) moved none).resolve
        mode = (do
      let seconds ← numeric mode .multiply .daySeconds days true
      call .dateAdd (.string "SECOND") seconds moved) := by
  change ((Expr.arith .multiply .daySeconds days).resolve mode >>= fun seconds =>
    moved.resolve mode >>= fun moved => call .dateAdd (.string "SECOND") seconds moved) = _
  rw [resolve_daySeconds daysResolved fraction, movedResolved.resolve_eq]
  rfl

/-- A sum comes out the same if the trees in it are resolved as a whole. -/
theorem orderedSum_eq_rebuiltSum (leftResolved : Resolved mode left)
    (rightResolved : Resolved mode right) :
    orderedSum mode left right converts = rebuiltSum mode left right converts := by
  unfold rebuiltSum
  by_cases days : left.type = .integer
  · rw [if_pos days, orderedSum]
    simp only [days, ↓reduceIte]
    exact (resolve_call_of_resolved leftResolved rightResolved).symm
  · rw [if_neg days]
    by_cases fraction : left.type.isFractional = true
    · rw [if_pos fraction, orderedSum]
      simp only [days, fraction, ↓reduceIte]
      exact (resolve_call_of_daySeconds leftResolved rightResolved fraction).symm
    · rw [if_neg fraction]

/-- An instant moved back by a number of days is resolved as a whole just as part by part. -/
theorem rebuilt_negatedDays (leftResolved : Resolved mode left)
    (rightResolved : Resolved mode right) :
    (do
      let days ← negation right
      call .dateAdd (.string "DAY") days left) = (do
      let days ← (Expr.negated right).resolve mode
      (Expr.call .dateAdd (.string "DAY") days left none).resolve mode) := by
  have negates : (Expr.negated right).resolve mode = negation right := by
    change (right.resolve mode >>= negation) = negation right
    rw [rightResolved.resolve_eq]
    rfl
  rw [negates]
  refine bind_congr_of_ok fun days negated => ?_
  have daysResolved := Resolved.of_negation rightResolved negated
  exact (resolve_call_of_resolved daysResolved leftResolved).symm

/-- The negated number of seconds is resolved before the call it is put into is built. -/
theorem rebuilt_negatedSeconds (leftResolved : Resolved mode left)
    (rightResolved : Resolved mode right) (fraction : right.type.isFractional = true) :
    (do
      let seconds ← numeric mode .multiply .daySeconds right true
      let seconds ← negation seconds
      call .dateAdd (.string "SECOND") seconds left) = (do
      let seconds ← (Expr.negated (.arith .multiply .daySeconds right)).resolve mode
      (Expr.call .dateAdd (.string "SECOND") seconds left none).resolve mode) := by
  have negates : (Expr.negated (.arith .multiply .daySeconds right)).resolve mode =
      numeric mode .multiply .daySeconds right true >>= negation := by
    rw [← resolve_daySeconds rightResolved fraction]
    rfl
  rw [negates, bind_assoc]
  refine bind_congr_of_ok fun scaled scales => ?_
  have scaledResolved := Resolved.of_daySeconds rightResolved fraction scales
  refine bind_congr_of_ok fun seconds negated => ?_
  have secondsResolved := Resolved.of_negation scaledResolved negated
  exact (resolve_call_of_resolved secondsResolved leftResolved).symm

/-- A difference comes out the same if the trees in it are resolved as a whole. -/
theorem temporalDifference_eq_rebuiltDifference (leftResolved : Resolved mode left)
    (rightResolved : Resolved mode right) :
    temporalDifference mode left right converts = rebuiltDifference mode left right converts := by
  unfold rebuiltDifference
  by_cases dated : left.type.hasDate = true
  · rw [if_pos dated]
    by_cases whole : right.type = .integer
    · rw [if_pos whole, temporalDifference]
      simp only [dated, whole, ↓reduceIte]
      exact rebuilt_negatedDays leftResolved rightResolved
    · rw [if_neg whole]
      by_cases fraction : right.type.isFractional = true
      · rw [if_pos fraction, temporalDifference]
        simp only [dated, whole, fraction, ↓reduceIte]
        exact rebuilt_negatedSeconds leftResolved rightResolved fraction
      · rw [if_neg fraction]
        by_cases rightDated : right.type.hasDate = true
        · have rightOther : right.type ≠ .time := by
            intro isTime
            rw [isTime] at rightDated
            cases rightDated
          rw [if_pos rightDated, temporalDifference]
          simp only [dated, whole, fraction, rightOther, rightDated, ↓reduceIte]
          exact (resolve_call_of_resolved rightResolved leftResolved).symm
        · rw [if_neg rightDated]
  · rw [if_neg dated]

/-- Arithmetic comes out the same if the trees in it are resolved as a whole. -/
theorem operation_eq_rebuilt {op : ArithOp} (leftResolved : Resolved mode left)
    (rightResolved : Resolved mode right) :
    operation mode (.arith op) left right converts = rebuilt mode op left right converts := by
  unfold rebuilt
  by_cases isTemporal : (left.type.isTemporal || right.type.isTemporal) = true
  · rw [if_pos isTemporal, operation_of_temporal ((Bool.or_eq_true _ _).mp isTemporal)]
    cases op with
    | plus =>
        simp only [temporal, temporalSum]
        by_cases ordered : DataType.preferred left.type right.type = right.type
        · rw [if_pos ordered, if_pos ordered]
          exact orderedSum_eq_rebuiltSum leftResolved rightResolved
        · rw [if_neg ordered, if_neg ordered]
          exact orderedSum_eq_rebuiltSum rightResolved leftResolved
    | minus => exact temporalDifference_eq_rebuiltDifference leftResolved rightResolved
    | multiply | divide | modulus => rfl
  · rw [if_neg isTemporal]

end Resolution

/-- Arithmetic is resolved by resolving the operands and whatever is built from them. -/
theorem Expr.resolve_arith (mode : Mode) (op : ArithOp) (left right : Expr)
    (resolved : Option DataType) (converts : Bool) :
    (Expr.binary (.arith op) left right resolved converts).resolve mode = (do
      let left ← left.resolve mode
      let right ← right.resolve mode
      Resolution.rebuilt mode op left right converts) := by
  refine bind_congr_of_ok fun left' leftIs => ?_
  refine bind_congr_of_ok fun right' rightIs => ?_
  exact Resolution.operation_eq_rebuilt (.of_resolve leftIs) (.of_resolve rightIs)

end SqlScalar
