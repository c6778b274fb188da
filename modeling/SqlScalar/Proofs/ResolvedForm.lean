import SqlScalar.Proofs.OperationRules

/-! # Resolved expressions

An expression is resolved if every node in it is what its rule makes of its operands. This is
the form every resolution ends in (`Resolved.of_resolve`), and resolution leaves it as it is
(`Resolved.resolve_eq`), so resolving twice is resolving once.
-/

namespace SqlScalar

open Calendar Resolution

/-- Whether resolution has nothing left to do in an expression, node by node. -/
inductive Resolved (mode : Mode) : Expr → Prop
  | literal (value : Value) : Resolved mode (.literal value)
  | column {reference : ColumnRef} (bound : reference.binding.isSome = true) :
      Resolved mode (.column reference)
  | parameter (index : Index) : Resolved mode (.parameter index)
  | negate {operand : Expr} (operandResolved : Resolved mode operand)
      (varying : operand.isConstant = false) :
      Resolved mode (.negate operand (some (negationType operand.type)))
  | binary {op : BinaryOp} {left right : Expr} {type : DataType} {converts : Bool}
      (leftResolved : Resolved mode left) (rightResolved : Resolved mode right)
      (stays : Stays mode op left right type converts) :
      Resolved mode (.binary op left right (some type) converts)
  | call {function : DateFunction} {unit first second : Expr} {known : Option TimeUnit}
      (unitResolved : Resolved mode unit) (firstResolved : Resolved mode first)
      (secondResolved : Resolved mode second) (knownIs : constantUnit unit = .ok known)
      (varying : closed unit first second = false) :
      Resolved mode (.call function unit first second (some (callType function known second.type)))
  | aggregate {kind : AggregateKind} {argument : Expr} {type : DataType} {state : AggregateState}
      (argumentResolved : Resolved mode argument)
      (typed : kind.outputType argument.type = .ok type) :
      Resolved mode (.aggregate kind argument (some type) state)

variable {mode : Mode}

namespace Resolved

section Node

variable {op settled : BinaryOp} {left right result : Expr} {converts : Bool} {type : DataType}

/-- The negation of a resolved operand is resolved to one with nothing left to do. -/
theorem of_negation {operand : Expr} (operandResolved : Resolved mode operand)
    (resolves : negation operand = .ok result) : Resolved mode result := by
  rcases negation_eq_ok resolves with ⟨_, value, _, _, rfl⟩ | ⟨varying, rfl⟩
  · exact .literal value
  · exact .negate operandResolved varying

/-- A call on resolved arguments is resolved to one with nothing left to do. -/
theorem of_call {function : DateFunction} {unit first second : Expr}
    (unitResolved : Resolved mode unit) (firstResolved : Resolved mode first)
    (secondResolved : Resolved mode second)
    (resolves : Resolution.call function unit first second = .ok result) :
    Resolved mode result := by
  obtain ⟨known, knownIs, ⟨_, _, _, value, _, _, _, _, rfl⟩ | ⟨varying, rfl⟩⟩ :=
    call_eq_ok resolves
  · exact .literal value
  · exact .call unitResolved firstResolved secondResolved knownIs varying

/-- An operation that is given an operator and a type keeps them when it is resolved again. -/
theorem of_plan (leftResolved : Resolved mode left) (rightResolved : Resolved mode right)
    (plain : Plain op left.type right.type)
    (planned : plan mode op left.type right.type = .ok (settled, type))
    (varying : foldable left right = false) :
    Resolved mode (.binary settled left right (some type) converts) :=
  .binary leftResolved rightResolved (.plain (plain.of_plan planned) (plan_plan planned) varying)

/-- The seconds in a resolved number of days have nothing left to do. -/
theorem of_daySeconds {days : Expr} (daysResolved : Resolved mode days)
    (fraction : days.type.isFractional = true)
    (resolves : numeric mode .multiply .daySeconds days true = .ok result) :
    Resolved mode result := by
  obtain ⟨settled, type, planned, ⟨_, value, _, _, rfl⟩ | ⟨varying, rfl⟩⟩ :=
    daySeconds_eq_ok fraction resolves
  · exact .literal value
  · exact of_plan (.literal _) daysResolved (plain_daySeconds fraction) planned varying

/-- Whatever an operation on resolved operands becomes is resolved. -/
theorem of_rewrites (rewrites : Rewrites mode op left right converts result)
    (leftResolved : Resolved mode left) (rightResolved : Resolved mode right) :
    Resolved mode result := by
  induction rewrites with
  | folds => exact .literal _
  | settles plain planned varying => exact of_plan leftResolved rightResolved plain planned varying
  | keeps kept => exact .binary leftResolved rightResolved (.temporal kept)
  | scales scaling isTime => exact .binary leftResolved rightResolved (.scaled scaling isTime)
  | swaps _ _ ih => exact ih rightResolved leftResolved
  | addsDays _ _ calls => exact of_call (.literal _) leftResolved rightResolved calls
  | addsSeconds fraction _ scaled calls =>
      exact of_call (.literal _) (of_daySeconds leftResolved fraction scaled) rightResolved calls
  | subtractsDays _ _ negated calls =>
      exact of_call (.literal _) (of_negation rightResolved negated) leftResolved calls
  | subtractsSeconds _ fraction scales negated calls =>
      have scaledResolved := of_daySeconds rightResolved fraction scales
      exact of_call (.literal _) (of_negation scaledResolved negated) leftResolved calls
  | countsDays _ _ calls => exact of_call (.literal _) rightResolved leftResolved calls

end Node

/-- Resolution ends in a resolved expression. -/
theorem of_resolve {expr result : Expr} (resolves : expr.resolve mode = .ok result) :
    Resolved mode result := by
  induction expr generalizing result with
  | literal value => cases resolves; exact .literal value
  | column reference =>
      simp only [Expr.resolve] at resolves
      split at resolves
      · rename_i bound
        cases resolves
        exact .column bound
      · cases resolves
  | parameter index => cases resolves; exact .parameter index
  | negate operand _ ih =>
      obtain ⟨operand', operandIs, negated⟩ := bind_eq_ok.mp resolves
      exact of_negation (ih operandIs) negated
  | binary op left right _ converts leftIH rightIH =>
      obtain ⟨left', leftIs, resolves⟩ := bind_eq_ok.mp resolves
      obtain ⟨right', rightIs, resolves⟩ := bind_eq_ok.mp resolves
      exact of_rewrites (operation_rewrites resolves) (leftIH leftIs) (rightIH rightIs)
  | call function unit first second _ unitIH firstIH secondIH =>
      obtain ⟨unit', unitIs, resolves⟩ := bind_eq_ok.mp resolves
      obtain ⟨first', firstIs, resolves⟩ := bind_eq_ok.mp resolves
      obtain ⟨second', secondIs, resolves⟩ := bind_eq_ok.mp resolves
      exact of_call (unitIH unitIs) (firstIH firstIs) (secondIH secondIs) resolves
  | aggregate kind argument _ state ih =>
      obtain ⟨argument', argumentIs, resolves⟩ := bind_eq_ok.mp resolves
      obtain ⟨type, typed, resolves⟩ := bind_eq_ok.mp resolves
      cases resolves
      exact .aggregate (ih argumentIs) typed

/-- Resolution leaves a resolved expression as it is. -/
theorem resolve_eq {expr : Expr} (resolved : Resolved mode expr) :
    expr.resolve mode = .ok expr := by
  induction resolved with
  | literal value => rfl
  | column bound => simp only [Expr.resolve, bound, ↓reduceIte]
  | parameter index => rfl
  | negate _ varying ih =>
      simp only [Expr.resolve, ih]
      exact negation_of_varying varying
  | binary _ _ stays leftIH rightIH =>
      simp only [Expr.resolve, leftIH, rightIH]
      exact operation_of_stays stays
  | call _ _ _ knownIs varying unitIH firstIH secondIH =>
      simp only [Expr.resolve, unitIH, firstIH, secondIH]
      exact call_of_not_closed knownIs varying
  | @aggregate kind argument type state _ typed ih =>
      simp only [Expr.resolve, ih]
      change (kind.outputType argument.type >>= _) = _
      rw [typed]
      rfl

end Resolved

/-- Resolving a resolved expression again changes no part of it. -/
theorem resolve_resolve {expr result : Expr} (resolves : expr.resolve mode = .ok result) :
    result.resolve mode = .ok result :=
  (Resolved.of_resolve resolves).resolve_eq

/-- Twice half past nine is resolved by changing places, and not once more the next time. -/
theorem resolve_resolve_scaled_time :
    let opens : TimeOfDay := ⟨34200, 0, by decide, by decide, by decide⟩
    ∃ result, (Expr.arith .multiply (.int 2) (.literal (.time opens))).resolve .regular =
        .ok result ∧ result.resolve .regular = .ok result := by
  intro opens
  have resolves : (Expr.arith .multiply (.int 2) (.literal (.time opens))).resolve .regular =
      .ok (.binary (.arith .multiply) (.literal (.time opens)) (.int 2) (some .time) false) := rfl
  exact ⟨_, resolves, resolve_resolve resolves⟩

end SqlScalar
