import SqlScalar.Proofs.ResolvedForm

/-! # Resolution under another mode

A resolved expression can be part of a new one and be resolved again, also under another mode.
Operators and types may change then. It does not become a constant, and a time of day stays
one.
-/

namespace SqlScalar

open Calendar Resolution

namespace Resolution

variable {mode other : Mode} {op : BinaryOp} {left right left' right' result : Expr}
  {converts : Bool} {type : DataType}

/-- An operation that stays a time of day does so under any mode while its operands stay times
of day. -/
theorem Stays.time (stays : Stays mode op left right .time converts)
    (leftTime : left.type = .time → left'.type = .time)
    (rightTime : right.type = .time → right'.type = .time) :
    operation other op left' right' converts =
      .ok (.binary op left' right' (some .time) converts) := by
  cases stays with
  | plain plain planned varying => cases isTemporal_of_plan plain planned
  | temporal kept =>
      refine operation_of_keeps ?_
      generalize leftIs : left.type = leftType at kept
      generalize rightIs : right.type = rightType at kept
      cases kept with
      | sumOfTimes =>
          rw [leftTime leftIs, rightTime rightIs]
          exact .sumOfTimes
      | differenceOfTimes =>
          rw [leftTime leftIs, rightTime rightIs]
          exact .differenceOfTimes
  | scaled scaling isTime => exact operation_of_scales scaling (leftTime isTime)

/-- An operation that stays as it is is resolved to no constant under any mode. -/
theorem isConstant_of_stays (stays : Stays mode op left right type converts)
    (resolves : operation other op left right converts = .ok result) :
    result.isConstant = false := by
  cases stays with
  | plain _ _ varying => exact isConstant_of_rewrites (operation_rewrites resolves) varying
  | temporal kept =>
      rw [operation_of_keeps kept] at resolves
      cases resolves
      rfl
  | scaled scaling isTime =>
      rw [operation_of_scales scaling isTime] at resolves
      cases resolves
      rfl

end Resolution

theorem Expr.eq_of_resolve_constant {mode : Mode} {expr result : Expr}
    (constant : expr.isConstant = true) (resolves : expr.resolve mode = .ok result) :
    result = expr := by
  obtain ⟨value, rfl⟩ := Expr.eq_literal_of_isConstant constant
  cases resolves
  rfl

namespace Resolved

variable {mode other : Mode} {expr result : Expr}

/-- What survives another resolution: that an expression is no constant, and that it is a time
of day. -/
theorem resolve_again (resolved : Resolved mode expr)
    (resolves : expr.resolve other = .ok result) :
    result.isConstant = expr.isConstant ∧ (expr.type = .time → result.type = .time) := by
  induction resolved generalizing result with
  | literal value => cases resolves; exact ⟨rfl, id⟩
  | column isBound =>
      simp only [Expr.resolve, isBound, ↓reduceIte] at resolves
      cases resolves
      exact ⟨rfl, id⟩
  | parameter index => cases resolves; exact ⟨rfl, id⟩
  | @negate operand _ varying ih =>
      obtain ⟨operand', operandIs, negated⟩ := bind_eq_ok.mp resolves
      obtain ⟨constantIH, timeIH⟩ := ih operandIs
      rw [negation_of_varying (constantIH.trans varying)] at negated
      cases negated
      refine ⟨rfl, fun isTime => ?_⟩
      change negationType operand.type = .time at isTime
      have operandTime : operand.type = .time := by
        generalize operand.type = operandType at isTime
        cases operandType <;> first | rfl | cases isTime
      change negationType operand'.type = .time
      rw [timeIH operandTime]
      rfl
  | @binary op left right type converts _ _ stays leftIH rightIH =>
      obtain ⟨left', leftIs, rest⟩ := bind_eq_ok.mp resolves
      obtain ⟨right', rightIs, operates⟩ := bind_eq_ok.mp rest
      obtain ⟨leftConstant, leftTime⟩ := leftIH leftIs
      obtain ⟨rightConstant, rightTime⟩ := rightIH rightIs
      constructor
      · change result.isConstant = false
        -- Two constant operands are still the ones the operation stayed as it is with.
        cases varying : foldable left right with
        | true =>
            obtain ⟨leftFixed, rightFixed⟩ := Bool.and_eq_true_iff.mp varying
            have leftSame := Expr.eq_of_resolve_constant leftFixed leftIs
            have rightSame := Expr.eq_of_resolve_constant rightFixed rightIs
            subst leftSame rightSame
            exact isConstant_of_stays stays operates
        | false =>
            refine isConstant_of_rewrites (operation_rewrites operates) ?_
            rw [foldable, leftConstant, rightConstant]
            exact varying
      · intro isTime
        change type = .time at isTime
        subst isTime
        rw [stays.time leftTime rightTime] at operates
        cases operates
        rfl
  | @call function unit first second known _ _ _ _ varying unitIH firstIH secondIH =>
      obtain ⟨unit', unitIs, resolves⟩ := bind_eq_ok.mp resolves
      obtain ⟨first', firstIs, resolves⟩ := bind_eq_ok.mp resolves
      obtain ⟨second', secondIs, resolves⟩ := bind_eq_ok.mp resolves
      have varying' : closed unit' first' second' = false := by
        rw [closed, (unitIH unitIs).1, (firstIH firstIs).1, (secondIH secondIs).1]
        exact varying
      obtain ⟨known', knownIs', _⟩ := call_eq_ok resolves
      rw [call_of_not_closed knownIs' varying'] at resolves
      cases resolves
      refine ⟨rfl, fun isTime => ?_⟩
      change callType function known second.type = .time at isTime
      have moved := eq_time_of_callType isTime
      change callType function known' second'.type = .time
      rw [moved.1, (secondIH secondIs).2 moved.2]
      rfl
  | @aggregate kind argument type state _ typed ih =>
      obtain ⟨argument', argumentIs, resolves⟩ := bind_eq_ok.mp resolves
      obtain ⟨type', typed', resolves⟩ := bind_eq_ok.mp resolves
      cases resolves
      refine ⟨rfl, fun isTime => ?_⟩
      change type = .time at isTime
      subst isTime
      have argumentTime : argument.type = .time := by
        generalize argument.type = argumentType at typed
        cases kind <;> cases argumentType <;> first | rfl | cases typed
      rw [(ih argumentIs).2 argumentTime] at typed'
      change type' = .time
      cases kind with
      | count => cases typed
      | sum => cases typed'
      | min | max => cases typed'; rfl

end Resolved

end SqlScalar
