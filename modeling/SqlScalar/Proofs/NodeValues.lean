import SqlScalar.Proofs.OperationRules

/-! # Values of resolved nodes

The value of what a node is resolved to depends on the operands only through their types and
their values, whether or not the node was folded to a constant on the way.
-/

namespace SqlScalar

open Calendar

namespace Resolution

/-- The value of what was resolved, if it was. -/
def valueOf (context : Context) (resolved : Outcome Expr) : Outcome Value := do
  (← resolved).evaluate context

variable {context other : Context} {op : BinaryOp} {left right left' right' : Expr}
  {converts : Bool} {type : DataType}

/-- An operation has the same value whether it is folded or kept. -/
theorem valueOf_fold :
    valueOf context (fold context.mode op left right type converts) =
      op.evaluate context.mode type converts (left.evaluate context) (right.evaluate context) := by
  cases varying : foldable left right with
  | true =>
      obtain ⟨a, b, rfl, rfl⟩ := eq_literals_of_foldable varying
      simp only [valueOf, fold, Expr.evaluate]
      cases op.evaluate context.mode type converts (.ok a) (.ok b) <;> rfl
  | false =>
      rw [fold_of_not_foldable varying]
      rfl

/-- Arithmetic may be evaluated under another mode than it is resolved under. -/
theorem valueOf_fold_arith {mode : Mode} {arith : ArithOp} :
    valueOf context (fold mode (.arith arith) left right type converts) =
      (BinaryOp.arith arith).evaluate mode type converts (left.evaluate context)
        (right.evaluate context) := by
  cases varying : foldable left right with
  | true =>
      obtain ⟨a, b, rfl, rfl⟩ := eq_literals_of_foldable varying
      simp only [valueOf, fold, Expr.evaluate]
      cases (BinaryOp.arith arith).evaluate mode type converts (.ok a) (.ok b) <;> rfl
  | false =>
      rw [fold_of_not_foldable varying]
      rfl

/-- A negation has the same value whether it is folded or kept. -/
theorem valueOf_negation {operand : Expr} :
    valueOf context (negation operand) =
      evaluateNegation (negationType operand.type) (operand.evaluate context) := by
  cases varying : operand.isConstant with
  | true =>
      obtain ⟨a, rfl⟩ := Expr.eq_literal_of_isConstant varying
      simp only [valueOf, negation, Expr.type, Expr.evaluate]
      cases evaluateNegation (negationType a.type) (.ok a) <;> rfl
  | false =>
      rw [negation_of_varying varying]
      rfl

/-- A call has the same value whether it is folded or kept. -/
theorem valueOf_call {function : DateFunction} {unit first second : Expr}
    {known : Option TimeUnit} (knownIs : constantUnit unit = .ok known) :
    valueOf context (call function unit first second) =
      function.evaluate (callType function known second.type) (unit.evaluate context)
        (first.evaluate context) (second.evaluate context) := by
  cases varying : closed unit first second with
  | true =>
      simp only [closed, Bool.and_eq_true] at varying
      obtain ⟨a, rfl⟩ := Expr.eq_literal_of_isConstant varying.1.1
      obtain ⟨b, rfl⟩ := Expr.eq_literal_of_isConstant varying.1.2
      obtain ⟨c, rfl⟩ := Expr.eq_literal_of_isConstant varying.2
      simp only [valueOf, call, knownIs, Expr.type, Expr.evaluate]
      change ((function.evaluate _ _ _ _ >>= _) >>= _) = _
      cases function.evaluate (callType function known c.type) (.ok a) (.ok b) (.ok c) <;> rfl
  | false =>
      rw [call_of_not_closed knownIs varying]
      rfl

section Resolved

variable {result : Expr}

/-- What an operation is folded to or kept as evaluates as the operation on its operands. -/
theorem evaluate_of_fold (folds : fold context.mode op left right type converts = .ok result) :
    result.evaluate context =
      op.evaluate context.mode type converts (left.evaluate context) (right.evaluate context) := by
  rw [← valueOf_fold, folds]
  rfl

/-- What a negation is folded to or kept as evaluates as the negation of its operand. -/
theorem evaluate_of_negation {operand : Expr} (resolves : negation operand = .ok result) :
    result.evaluate context =
      evaluateNegation (negationType operand.type) (operand.evaluate context) := by
  rw [← valueOf_negation, resolves]
  rfl

/-- What a call is folded to or kept as evaluates as the function of its arguments. -/
theorem evaluate_of_call {function : DateFunction} {unit first second : Expr}
    {known : Option TimeUnit} (knownIs : constantUnit unit = .ok known)
    (resolves : call function unit first second = .ok result) :
    result.evaluate context =
      function.evaluate (callType function known second.type) (unit.evaluate context)
        (first.evaluate context) (second.evaluate context) := by
  rw [← valueOf_call knownIs, resolves]
  rfl

end Resolved

theorem constantUnit_literal {named : Value} {unit : TimeUnit} (present : named.isNull = false)
    (parses : TimeUnit.parse named.display = .ok unit) :
    constantUnit (.literal named) = .ok (some unit) := by
  simp only [constantUnit, present, parses, Bool.false_eq_true, ↓reduceIte]
  rfl

theorem parse_day : TimeUnit.parse (Value.varchar "DAY").display = .ok .day := rfl

theorem parse_second : TimeUnit.parse (Value.varchar "SECOND").display = .ok .second := rfl

/-- An instant is moved by whatever the number of units evaluates to. -/
theorem valueOf_moved {named : Value} {unit : TimeUnit} {number : Outcome Expr} {moved : Expr}
    (present : named.isNull = false) (parses : TimeUnit.parse named.display = .ok unit) :
    valueOf context (number >>= fun units => call .dateAdd (.literal named) units moved) =
      DateFunction.dateAdd.evaluateIn (callType .dateAdd (some unit) moved.type) unit
        (valueOf context number) (moved.evaluate context) := by
  cases number with
  | error failure => rfl
  | ok units =>
      change valueOf context (call .dateAdd (.literal named) units moved) = _
      rw [valueOf_call (constantUnit_literal present parses)]
      simp only [DateFunction.evaluate, Expr.evaluate]
      change (if named.isNull = true then _ else _) = _
      rw [present, parses]
      rfl

/-- The value of an operation without a temporal reading, from the values of its operands. -/
theorem valueOf_plain (plain : Plain op left.type right.type) :
    valueOf context (operation context.mode op left right converts) =
      plan context.mode op left.type right.type >>= fun planned =>
        planned.1.evaluate context.mode planned.2 converts (left.evaluate context)
          (right.evaluate context) := by
  rw [operation_of_plain plain]
  cases plan context.mode op left.type right.type with
  | error failure => rfl
  | ok planned => exact valueOf_fold

section Seconds

variable {days : Expr}

/-- The value of a number of days in seconds, from the value of the days. -/
theorem valueOf_daySeconds (fraction : days.type.isFractional = true) :
    valueOf context (numeric context.mode .multiply .daySeconds days true) =
      plan context.mode (.arith .multiply) .integer days.type >>= fun planned =>
        planned.1.evaluate context.mode planned.2 true (.ok (.integer 86400))
          (days.evaluate context) := by
  rw [numeric_daySeconds fraction]
  exact valueOf_plain (plain_daySeconds fraction)

/-- The number of seconds has the planned type, whether it is computed or a constant. -/
theorem type_of_daySeconds {mode : Mode} {seconds : Expr} (fraction : days.type.isFractional = true)
    (scaled : numeric mode .multiply .daySeconds days true = .ok seconds) :
    ∃ settled, plan mode (.arith .multiply) .integer days.type = .ok (settled, seconds.type) := by
  obtain ⟨settled, type, planned, ⟨b, value, rfl, evaluates, rfl⟩ | ⟨_, rfl⟩⟩ :=
    daySeconds_eq_ok fraction scaled
  · have present : b.isNull = false := by
      refine Value.isNull_eq_false_of_typed ?_
      change b.type.isFractional = true at fraction
      generalize b.type = numberType at fraction
      cases numberType <;> first | rfl | cases fraction
    obtain ⟨typed, concatenable⟩ := plan_typed planned
    have valueType := BinaryOp.evaluate_type_of_present rfl rfl rfl present typed concatenable
      evaluates
    refine ⟨settled, ?_⟩
    change plan mode (.arith .multiply) .integer b.type = .ok (settled, value.type)
    rw [valueType]
    exact planned
  · exact ⟨settled, planned⟩

end Seconds

/-- Two expressions of one type and value, each in its own context. -/
structure Agree (context other : Context) (expr expr' : Expr) : Prop where
  type : expr'.type = expr.type
  evaluate : expr'.evaluate other = expr.evaluate context

namespace Agree

variable (mode : other.mode = context.mode)

include mode

/-- An operation without a temporal reading has one value on operands that agree. -/
theorem valueOf_plain (leftAgree : Agree context other left left')
    (rightAgree : Agree context other right right') (plain : Plain op left.type right.type) :
    valueOf other (operation other.mode op left' right' converts) =
      valueOf context (operation context.mode op left right converts) := by
  have plain' : Plain op left'.type right'.type := by
    rw [leftAgree.type, rightAgree.type]
    exact plain
  rw [Resolution.valueOf_plain plain, Resolution.valueOf_plain plain', leftAgree.type,
    rightAgree.type, leftAgree.evaluate, rightAgree.evaluate, mode]

/-- Numbers of days that agree are the same number of seconds. -/
theorem valueOf_daySeconds {days days' : Expr} (agree : Agree context other days days')
    (fraction : days.type.isFractional = true) :
    valueOf other (numeric other.mode .multiply .daySeconds days' true) =
      valueOf context (numeric context.mode .multiply .daySeconds days true) := by
  have fraction' : days'.type.isFractional = true := by
    rw [agree.type]
    exact fraction
  rw [Resolution.valueOf_daySeconds fraction, Resolution.valueOf_daySeconds fraction', agree.type,
    agree.evaluate, mode]

/-- Numbers of days that agree are the same number of seconds the other way. -/
theorem valueOf_negatedSeconds {days days' : Expr} (agree : Agree context other days days')
    (fraction : days.type.isFractional = true) :
    valueOf other (numeric other.mode .multiply .daySeconds days' true >>= negation) =
      valueOf context (numeric context.mode .multiply .daySeconds days true >>= negation) := by
  have same := agree.valueOf_daySeconds mode fraction
  have fraction' : days'.type.isFractional = true := by
    rw [agree.type]
    exact fraction
  cases scaled : numeric context.mode .multiply .daySeconds days true with
  | error failure =>
      rw [scaled] at same
      cases scaled' : numeric other.mode .multiply .daySeconds days' true with
      | error failure' =>
          rw [scaled'] at same
          exact same
      | ok seconds' =>
          -- The product fails where it is evaluated, and so does its negation.
          rw [scaled'] at same
          change seconds'.evaluate other = .error failure at same
          change valueOf other (negation seconds') = .error failure
          rw [valueOf_negation, same]
          rfl
  | ok seconds =>
      rw [scaled] at same
      change _ = seconds.evaluate context at same
      change _ = valueOf context (negation seconds)
      rw [valueOf_negation, ← same]
      cases scaled' : numeric other.mode .multiply .daySeconds days' true with
      | error failure' => rfl
      | ok seconds' =>
          change valueOf other (negation seconds') = _
          rw [valueOf_negation]
          obtain ⟨settled, planned⟩ := type_of_daySeconds fraction scaled
          obtain ⟨settled', planned'⟩ := type_of_daySeconds fraction' scaled'
          rw [agree.type, mode, planned, Except.ok.injEq, Prod.mk.injEq] at planned'
          rw [planned'.2]
          rfl

omit mode in
/-- A call in a constant unit has one value on arguments that agree. -/
theorem valueOf_call {function : DateFunction} {named : Value} {known : Option TimeUnit}
    {first first' second second' : Expr} (knownIs : constantUnit (.literal named) = .ok known)
    (firstAgree : Agree context other first first')
    (secondAgree : Agree context other second second') :
    valueOf other (call function (.literal named) first' second') =
      valueOf context (call function (.literal named) first second) := by
  rw [Resolution.valueOf_call knownIs, Resolution.valueOf_call knownIs, firstAgree.evaluate,
    secondAgree.evaluate, secondAgree.type]
  rfl

omit mode in
/-- Instants that agree, moved by the same number of units, come to the same value. -/
theorem valueOf_moved {named : Value} {unit : TimeUnit} {number number' : Outcome Expr}
    {moved moved' : Expr} (present : named.isNull = false)
    (parses : TimeUnit.parse named.display = .ok unit)
    (numbers : valueOf other number' = valueOf context number)
    (agree : Agree context other moved moved') :
    valueOf other (number' >>= fun units => call .dateAdd (.literal named) units moved') =
      valueOf context (number >>= fun units => call .dateAdd (.literal named) units moved) := by
  rw [Resolution.valueOf_moved present parses, Resolution.valueOf_moved present parses, numbers,
    agree.type, agree.evaluate]

/-- An operation that is kept has one value on operands that agree. -/
theorem valueOf_binary (leftAgree : Agree context other left left')
    (rightAgree : Agree context other right right') :
    valueOf other (.ok (.binary op left' right' (some type) converts)) =
      valueOf context (.ok (.binary op left right (some type) converts)) := by
  change op.evaluate other.mode type converts (left'.evaluate other) (right'.evaluate other) =
    op.evaluate context.mode type converts (left.evaluate context) (right.evaluate context)
  rw [leftAgree.evaluate, rightAgree.evaluate, mode]

/-- A sum in order has one value on operands that agree. -/
theorem valueOf_orderedSum (leftAgree : Agree context other left left')
    (rightAgree : Agree context other right right') :
    valueOf other (orderedSum other.mode left' right' converts) =
      valueOf context (orderedSum context.mode left right converts) := by
  unfold orderedSum
  simp only [leftAgree.type, rightAgree.type]
  by_cases days : left.type = .integer
  · rw [if_pos days, if_pos days]
    have numbers : valueOf other (.ok left') = valueOf context (.ok left) := leftAgree.evaluate
    exact valueOf_moved rfl parse_day numbers rightAgree
  · rw [if_neg days, if_neg days]
    by_cases fraction : left.type.isFractional = true
    · rw [if_pos fraction, if_pos fraction]
      have numbers := leftAgree.valueOf_daySeconds mode fraction
      exact valueOf_moved rfl parse_second numbers rightAgree
    · rw [if_neg fraction, if_neg fraction]
      by_cases isTime : left.type = .time
      · rw [if_pos isTime, if_pos isTime]
        by_cases rightTime : right.type = .time
        · rw [if_pos rightTime, if_pos rightTime]
          exact valueOf_binary mode leftAgree rightAgree
        · rw [if_neg rightTime, if_neg rightTime]
          exact valueOf_binary mode leftAgree rightAgree
      · rw [if_neg isTime, if_neg isTime]
        rfl

/-- A sum with a temporal operand has one value on operands that agree. -/
theorem valueOf_temporalSum (leftAgree : Agree context other left left')
    (rightAgree : Agree context other right right') :
    valueOf other (temporalSum other.mode left' right' converts) =
      valueOf context (temporalSum context.mode left right converts) := by
  unfold temporalSum
  rw [leftAgree.type, rightAgree.type]
  by_cases ordered : DataType.preferred left.type right.type = right.type
  · rw [if_pos ordered, if_pos ordered]
    exact valueOf_orderedSum mode leftAgree rightAgree
  · rw [if_neg ordered, if_neg ordered]
    exact valueOf_orderedSum mode rightAgree leftAgree

/-- A difference with a temporal operand has one value on operands that agree. -/
theorem valueOf_temporalDifference (leftAgree : Agree context other left left')
    (rightAgree : Agree context other right right') :
    valueOf other (temporalDifference other.mode left' right' converts) =
      valueOf context (temporalDifference context.mode left right converts) := by
  unfold temporalDifference
  simp only [leftAgree.type, rightAgree.type]
  by_cases dated : left.type.hasDate = true
  · rw [if_pos dated, if_pos dated]
    by_cases whole : right.type = .integer
    · rw [if_pos whole, if_pos whole]
      have numbers : valueOf other (negation right') = valueOf context (negation right) := by
        rw [valueOf_negation, valueOf_negation, rightAgree.type, rightAgree.evaluate]
      exact valueOf_moved rfl parse_day numbers leftAgree
    · rw [if_neg whole, if_neg whole]
      by_cases fraction : right.type.isFractional = true
      · rw [if_pos fraction, if_pos fraction]
        have numbers := rightAgree.valueOf_negatedSeconds mode fraction
        rw [← bind_assoc, ← bind_assoc]
        exact valueOf_moved rfl parse_second numbers leftAgree
      · rw [if_neg fraction, if_neg fraction]
        by_cases rightTime : right.type = .time
        · rw [if_pos rightTime, if_pos rightTime]
          exact valueOf_binary mode leftAgree rightAgree
        · rw [if_neg rightTime, if_neg rightTime]
          by_cases rightDated : right.type.hasDate = true
          · rw [if_pos rightDated, if_pos rightDated]
            exact valueOf_call rfl rightAgree leftAgree
          · rw [if_neg rightDated, if_neg rightDated]
            rfl
  · rw [if_neg dated, if_neg dated]
    by_cases times : left.type = .time ∧ right.type = .time
    · rw [if_pos times, if_pos times]
      exact valueOf_binary mode leftAgree rightAgree
    · rw [if_neg times, if_neg times]
      rfl

/-- Arithmetic with a temporal operand has one value on operands that agree. -/
theorem valueOf_temporal {op : ArithOp} (leftAgree : Agree context other left left')
    (rightAgree : Agree context other right right') :
    valueOf other (temporal other.mode op left' right' converts) =
      valueOf context (temporal context.mode op left right converts) := by
  cases op with
  | plus => exact valueOf_temporalSum mode leftAgree rightAgree
  | minus => exact valueOf_temporalDifference mode leftAgree rightAgree
  | multiply =>
      simp only [temporal, leftAgree.type, rightAgree.type]
      by_cases leftTime : left.type = .time
      · rw [if_pos leftTime, if_pos leftTime]
        exact valueOf_binary mode leftAgree rightAgree
      · rw [if_neg leftTime, if_neg leftTime]
        by_cases rightTime : right.type = .time
        · rw [if_pos rightTime, if_pos rightTime]
          exact valueOf_binary mode rightAgree leftAgree
        · rw [if_neg rightTime, if_neg rightTime]
          rfl
  | divide =>
      simp only [temporal, leftAgree.type, rightAgree.type]
      by_cases leftTime : left.type = .time
      · rw [if_pos leftTime, if_pos leftTime]
        exact valueOf_binary mode leftAgree rightAgree
      · rw [if_neg leftTime, if_neg leftTime]
        rfl
  | modulus =>
      simp only [temporal, leftAgree.type, rightAgree.type]
      rfl

/-- Operations on operands that agree agree, however differently they are folded. -/
theorem valueOf_operation (leftAgree : Agree context other left left')
    (rightAgree : Agree context other right right') :
    valueOf other (operation other.mode op left' right' converts) =
      valueOf context (operation context.mode op left right converts) := by
  rcases plain_or_temporal op left.type right.type with plain | ⟨op, rfl, isTemporal⟩
  · exact valueOf_plain mode leftAgree rightAgree plain
  · have isTemporal' : left'.type.isTemporal = true ∨ right'.type.isTemporal = true := by
      rw [leftAgree.type, rightAgree.type]
      exact isTemporal
    rw [operation_of_temporal isTemporal, operation_of_temporal isTemporal']
    exact valueOf_temporal mode leftAgree rightAgree

end Agree

end Resolution

namespace Expr

theorem resolve_arith_of_operands {mode : Mode} {op : ArithOp} {left right left' right' : Expr}
    (leftIs : left.resolve mode = .ok left') (rightIs : right.resolve mode = .ok right') :
    (arith op left right).resolve mode =
      Resolution.operation mode (.arith op) left' right' true := by
  simp only [arith, operation, resolve, leftIs, rightIs]
  rfl

/-- A column that has a value is bound, and stays as it is. -/
theorem resolve_column {mode : Mode} {reference : ColumnRef} {row : List Value} {value : Value}
    (holds : reference.evaluate row = .ok value) :
    (column reference).resolve mode = .ok (column reference) :=
  if_pos (ColumnRef.isSome_of_evaluate holds)

end Expr

end SqlScalar
