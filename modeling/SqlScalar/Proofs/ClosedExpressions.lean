import SqlScalar.Proofs.OperationRules

/-! # Closed expressions

An expression that refers to nothing is resolved to a constant. Its operands are constants once they
are resolved, and so are the negations, products and calls that date arithmetic is rewritten to.
Only operations on times of day are kept as they are, whatever their operands.
-/

namespace SqlScalar

open Calendar Resolution

namespace Expr

/-- Whether an expression is made of constants, operations and calls alone. -/
def IsClosed : Expr → Prop
  | literal _ => True
  | column _ | parameter _ | aggregate _ _ _ _ => False
  | negate operand _ => operand.IsClosed
  | binary _ left right _ _ => left.IsClosed ∧ right.IsClosed
  | call _ unit first second _ => unit.IsClosed ∧ first.IsClosed ∧ second.IsClosed

/-- Whether an expression is not resolved to a time of day. -/
def NoTime (mode : Mode) (expr : Expr) : Prop :=
  ∀ resolved, expr.resolve mode = .ok resolved → resolved.type ≠ .time

/-- What is resolved to another type than that of a time of day is no time of day. -/
theorem noTime_of_resolve {mode : Mode} {expr resolved : Expr}
    (resolves : expr.resolve mode = .ok resolved) (other : resolved.type ≠ .time) :
    expr.NoTime mode := by
  rintro _ resolves'
  rw [resolves] at resolves'
  cases resolves'
  exact other

/-- Whether no operand of an operation in an expression is resolved to a time of day. Arguments of
calls are no operands. -/
def OperatesOnNoTime (mode : Mode) : Expr → Prop
  | literal _ | column _ | parameter _ => True
  | negate operand _ => operand.NoTime mode ∧ operand.OperatesOnNoTime mode
  | binary _ left right _ _ =>
      (left.NoTime mode ∧ left.OperatesOnNoTime mode) ∧
        right.NoTime mode ∧ right.OperatesOnNoTime mode
  | call _ unit first second _ =>
      unit.OperatesOnNoTime mode ∧ first.OperatesOnNoTime mode ∧ second.OperatesOnNoTime mode
  | aggregate _ argument _ _ => argument.OperatesOnNoTime mode

end Expr

namespace Resolution

variable {mode : Mode} {op : BinaryOp} {left right operand unit first second result : Expr}
  {converts : Bool}

theorem constant_of_negation (constant : operand.isConstant = true)
    (resolves : negation operand = .ok result) : result.isConstant = true := by
  rcases negation_eq_ok resolves with ⟨_, _, _, _, rfl⟩ | ⟨varying, _⟩
  · rfl
  · rw [constant] at varying
    cases varying

theorem constant_of_call {function : DateFunction} (constant : closed unit first second = true)
    (resolves : call function unit first second = .ok result) : result.isConstant = true := by
  obtain ⟨_, _, ⟨_, _, _, _, _, _, _, _, rfl⟩ | ⟨varying, _⟩⟩ := call_eq_ok resolves
  · rfl
  · rw [constant] at varying
    cases varying

/-- The number of seconds in a constant number of days is a constant. -/
theorem constant_of_daySeconds {days seconds : Expr} (fraction : days.type.isFractional = true)
    (constant : days.isConstant = true)
    (scaled : numeric mode .multiply .daySeconds days true = .ok seconds) :
    seconds.isConstant = true := by
  obtain ⟨_, _, _, ⟨_, _, _, _, rfl⟩ | ⟨varying, _⟩⟩ := daySeconds_eq_ok fraction scaled
  · rfl
  · rw [constant] at varying
    cases varying

/-- A call with a constant unit is folded if its other arguments are constants. -/
theorem constant_of_unit_call {function : DateFunction} {named : Value}
    (firstConstant : first.isConstant = true) (secondConstant : second.isConstant = true)
    (resolves : call function (.literal named) first second = .ok result) :
    result.isConstant = true := by
  refine constant_of_call ?_ resolves
  rw [closed, firstConstant, secondConstant]
  rfl

/-- A sum or difference that stays an operation has an operand that is a time of day. -/
theorem Keeps.exists_time {op : ArithOp} {leftType rightType type : DataType}
    (kept : Keeps op leftType rightType type) : leftType = .time ∨ rightType = .time := by
  cases kept with
  | sumOfTimes | anchoredSum | differenceOfTimes => exact .inl rfl
  | anchoredDifference => exact .inr rfl

/-- An operation on constants becomes a constant unless it is kept for a time of day. -/
theorem constant_of_rewrites (rewrites : Rewrites mode op left right converts result)
    (leftConstant : left.isConstant = true) (rightConstant : right.isConstant = true)
    (leftType : left.type ≠ .time) (rightType : right.type ≠ .time) :
    result.isConstant = true := by
  induction rewrites with
  | folds => rfl
  | settles _ _ varying =>
      rw [foldable, leftConstant, rightConstant] at varying
      cases varying
  | keeps kept => exact absurd kept.exists_time (not_or.mpr ⟨leftType, rightType⟩)
  | scales _ isTime => exact absurd isTime leftType
  | swaps _ _ ih => exact ih rightConstant leftConstant rightType leftType
  | addsDays _ _ calls => exact constant_of_unit_call leftConstant rightConstant calls
  | addsSeconds fraction _ scaled calls =>
      have seconds := constant_of_daySeconds fraction leftConstant scaled
      exact constant_of_unit_call seconds rightConstant calls
  | subtractsDays _ _ negated calls =>
      have days := constant_of_negation rightConstant negated
      exact constant_of_unit_call days leftConstant calls
  | subtractsSeconds _ fraction scales negated calls =>
      have scaled := constant_of_daySeconds fraction rightConstant scales
      have seconds := constant_of_negation scaled negated
      exact constant_of_unit_call seconds leftConstant calls
  | countsDays _ _ calls => exact constant_of_unit_call rightConstant leftConstant calls

end Resolution

/-- A closed expression is resolved to a constant, as long as no operand in it is a time of day. -/
theorem Expr.constant_of_closed {mode : Mode} {expr result : Expr} (isClosed : expr.IsClosed)
    (noTimes : expr.OperatesOnNoTime mode) (resolves : expr.resolve mode = .ok result) :
    result.isConstant = true := by
  induction expr generalizing result with
  | literal value =>
      cases resolves
      rfl
  | column _ | parameter _ | aggregate _ _ _ _ _ => exact isClosed.elim
  | negate operand _ ih =>
      obtain ⟨operand', operandIs, negates⟩ := bind_eq_ok.mp resolves
      exact constant_of_negation (ih isClosed noTimes.2 operandIs) negates
  | binary op left right _ converts leftIH rightIH =>
      obtain ⟨left', leftIs, rest⟩ := bind_eq_ok.mp resolves
      obtain ⟨right', rightIs, operates⟩ := bind_eq_ok.mp rest
      obtain ⟨⟨leftOther, leftNoTimes⟩, rightOther, rightNoTimes⟩ := noTimes
      exact constant_of_rewrites (operation_rewrites operates)
        (leftIH isClosed.1 leftNoTimes leftIs) (rightIH isClosed.2 rightNoTimes rightIs)
        (leftOther left' leftIs) (rightOther right' rightIs)
  | call function unit first second _ unitIH firstIH secondIH =>
      obtain ⟨unit', unitIs, rest⟩ := bind_eq_ok.mp resolves
      obtain ⟨first', firstIs, rest⟩ := bind_eq_ok.mp rest
      obtain ⟨second', secondIs, calls⟩ := bind_eq_ok.mp rest
      refine constant_of_call ?_ calls
      rw [closed, unitIH isClosed.1 noTimes.1 unitIs, firstIH isClosed.2.1 noTimes.2.1 firstIs,
        secondIH isClosed.2.2 noTimes.2.2 secondIs]
      rfl

/-- A closed expression without operations on times of day is resolved to a constant, if it is
resolved at all. -/
theorem literal_of_closed_expression {mode : Mode} {expr result : Expr} (isClosed : expr.IsClosed)
    (noTimes : expr.OperatesOnNoTime mode) (resolves : expr.resolve mode = .ok result) :
    ∃ value, result = .literal value :=
  Expr.eq_literal_of_isConstant (Expr.constant_of_closed isClosed noTimes resolves)

/-- Half a day before the third day after the first one of 1970, two days have begun. -/
theorem literal_of_nested_dates :
    let first : Expr := .literal (.date .epoch)
    let half : Expr := .literal (.decimal ⟨false, 5, 1, by decide, by decide⟩)
    let later : Expr := .arith .plus first (.arith .plus (.int 1) (.int 2))
    let counted : Expr :=
      .call .dateDiff (.string "day") first (.arith .minus later half) none
    counted.IsClosed ∧ counted.OperatesOnNoTime .regular ∧
      counted.resolve .regular = .ok (.literal (.bigint 2)) ∧
      ∃ value, Expr.literal (.bigint 2) = .literal value := by
  intro first half later counted
  have number (value : Int32) : (Expr.int value).NoTime .regular :=
    Expr.noTime_of_resolve rfl nofun
  have three : (Expr.arith .plus (.int 1) (.int 2)).resolve .regular = .ok (.int 3) := rfl
  have days := Expr.noTime_of_resolve three nofun
  have firstDate : first.NoTime .regular := Expr.noTime_of_resolve rfl nofun
  have moves : later.resolve .regular = .ok (.literal (.date ⟨719166, by decide, by decide⟩)) := rfl
  have laterDate := Expr.noTime_of_resolve moves nofun
  have fraction : half.NoTime .regular := Expr.noTime_of_resolve rfl nofun
  have isClosed : counted.IsClosed := ⟨trivial, trivial, ⟨trivial, trivial, trivial⟩, trivial⟩
  have noTimes : counted.OperatesOnNoTime .regular :=
    ⟨trivial, trivial,
      ⟨laterDate, ⟨firstDate, trivial⟩, days, ⟨number 1, trivial⟩, number 2, trivial⟩,
      fraction, trivial⟩
  have resolves : counted.resolve .regular = .ok (.literal (.bigint 2)) := rfl
  exact ⟨isClosed, noTimes, resolves, literal_of_closed_expression isClosed noTimes resolves⟩

end SqlScalar
