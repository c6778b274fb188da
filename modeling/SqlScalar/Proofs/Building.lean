import SqlScalar.Proofs.LaterUse
import SqlScalar.Proofs.ModeChange

/-! # Building expressions

An expression is built node by node, each node without a type and converting its operands.
It may be used and resolved, under any mode, and be made part of another expression at any
time. The right operand of an operation then stays unconverted only next to a time of day
that is scaled.
-/

namespace SqlScalar

open Resolution

/-- The expressions that can be built. -/
inductive Built : Expr → Prop
  | literal (value : Value) : Built (.literal value)
  | column (reference : ColumnRef) : Built (.column reference)
  | parameter (index : Index) : Built (.parameter index)
  | negated {operand : Expr} (operandBuilt : Built operand) : Built (.negated operand)
  | operation (op : BinaryOp) {left right : Expr} (leftBuilt : Built left)
      (rightBuilt : Built right) : Built (.operation op left right)
  /-- The arguments of a call may be set anew after it has got a type. -/
  | call (function : DateFunction) {unit first second : Expr} (resolved : Option DataType)
      (unitBuilt : Built unit) (firstBuilt : Built first) (secondBuilt : Built second) :
      Built (.call function unit first second resolved)
  | aggregated (kind : AggregateKind) {argument : Expr} (argumentBuilt : Built argument) :
      Built (.aggregated kind argument)
  | used {expr : Expr} (use : Use) (built : Built expr) : Built (Use.apply expr use)
  | resolved {expr result : Expr} {mode : Mode} (built : Built expr)
      (resolves : expr.resolve mode = .ok result) : Built result

/-- An operation that scales a time of day by a factor that keeps its own type. -/
structure ScalesTime (op : BinaryOp) (left : Expr) : Prop where
  scaling : op = .arith .multiply ∨ op = .arith .divide
  time : ∃ mode, Resolved mode left ∧ left.type = .time

namespace Expr

/-- Right operands stay unconverted only where a time of day is scaled. -/
def ConvertsOperands : Expr → Prop
  | literal _ | column _ | parameter _ => True
  | negate operand _ => operand.ConvertsOperands
  | binary op left right _ converts =>
      left.ConvertsOperands ∧ right.ConvertsOperands ∧ (converts = false → ScalesTime op left)
  | call _ unit first second _ =>
      unit.ConvertsOperands ∧ first.ConvertsOperands ∧ second.ConvertsOperands
  | aggregate _ argument _ _ => argument.ConvertsOperands

variable {expr expr' : Expr}

theorem convertsOperands_literal (value : Value) : (literal value).ConvertsOperands := trivial

/-- Marks and what aggregates have seen have no part in which operands are converted. -/
theorem Alike.convertsOperands (alike : Alike expr expr') (converts : expr.ConvertsOperands) :
    expr'.ConvertsOperands := by
  induction alike with
  | literal _ | column _ | parameter _ => trivial
  | negate _ ih => exact ih converts
  | binary leftAlike _ leftIH rightIH =>
      obtain ⟨leftConverts, rightConverts, unconverted⟩ := converts
      refine ⟨leftIH leftConverts, rightIH rightConverts, fun unset => ?_⟩
      obtain ⟨scaling, mode, leftResolved, isTime⟩ := unconverted unset
      exact ⟨scaling, mode, leftAlike.resolved leftResolved, leftAlike.type_eq.trans isTime⟩
  | call _ _ _ unitIH firstIH secondIH =>
      exact ⟨unitIH converts.1, firstIH converts.2.1, secondIH converts.2.2⟩
  | aggregate _ ih => exact ih converts

/-- Binding columns leaves the operands that are converted as they are. -/
theorem convertsOperands_bindColumns (table : Table) (level : Nat)
    (converts : expr.ConvertsOperands) : (expr.bindColumns table level).ConvertsOperands := by
  unfold bindColumns
  induction expr with
  | literal _ | column _ | parameter _ => trivial
  | negate _ _ ih => exact ih converts
  | binary op left right resolved flag leftIH rightIH =>
      obtain ⟨leftConverts, rightConverts, unconverted⟩ := converts
      refine ⟨leftIH leftConverts, rightIH rightConverts, fun unset => ?_⟩
      obtain ⟨scaling, mode, leftResolved, isTime⟩ := unconverted unset
      -- The time of day is resolved, so the table has no effect on it.
      have leftSame := bindColumns_of_resolved leftResolved table level
      unfold bindColumns at leftSame
      rw [leftSame]
      exact ⟨scaling, mode, leftResolved, isTime⟩
  | call _ _ _ _ _ unitIH firstIH secondIH =>
      exact ⟨unitIH converts.1, firstIH converts.2.1, secondIH converts.2.2⟩
  | aggregate _ _ _ _ ih => exact ih converts

/-- No use of a resolved expression takes the conversion of an operand away. -/
theorem convertsOperands_apply (use : Use) (converts : expr.ConvertsOperands) :
    (Use.apply expr use).ConvertsOperands := by
  cases use with
  | bind table level => exact convertsOperands_bindColumns table level converts
  | mark table evaluatable =>
      exact (alike_setEvaluatable table evaluatable expr).convertsOperands converts
  | feed context => exact (alike_feed context expr).convertsOperands converts
  | reset => exact (alike_reset expr).convertsOperands converts

end Expr

section Resolution

variable {mode : Mode} {op : BinaryOp} {left right result : Expr} {converts : Bool}

/-- A negation is resolved to one that converts operands as its own operand does. -/
theorem convertsOperands_of_negation {operand : Expr} (operandConverts : operand.ConvertsOperands)
    (resolves : negation operand = .ok result) : result.ConvertsOperands := by
  rcases negation_eq_ok resolves with ⟨_, _, _, _, rfl⟩ | ⟨_, rfl⟩
  · trivial
  · exact operandConverts

/-- A call is resolved to one that converts operands as its arguments do. -/
theorem convertsOperands_of_call {function : DateFunction} {unit first second : Expr}
    (unitConverts : unit.ConvertsOperands) (firstConverts : first.ConvertsOperands)
    (secondConverts : second.ConvertsOperands)
    (resolves : Resolution.call function unit first second = .ok result) :
    result.ConvertsOperands := by
  obtain ⟨_, _, ⟨_, _, _, _, _, _, _, _, rfl⟩ | ⟨_, rfl⟩⟩ := call_eq_ok resolves
  · trivial
  · exact ⟨unitConverts, firstConverts, secondConverts⟩

/-- The seconds in a number of days are a product in which both operands are converted. -/
theorem convertsOperands_of_daySeconds {days : Expr} (daysConverts : days.ConvertsOperands)
    (fraction : days.type.isFractional = true)
    (resolves : numeric mode .multiply .daySeconds days true = .ok result) :
    result.ConvertsOperands := by
  obtain ⟨settled, type, _, ⟨_, _, _, _, rfl⟩ | ⟨_, rfl⟩⟩ := daySeconds_eq_ok fraction resolves
  · trivial
  · exact ⟨trivial, daysConverts, nofun⟩

/-- An operation leaves its right operand unconverted only if it did so before, or if it comes
to scale a time of day. -/
theorem convertsOperands_of_rewrites (rewrites : Rewrites mode op left right converts result)
    (leftResolved : Resolved mode left) (rightResolved : Resolved mode right)
    (leftConverts : left.ConvertsOperands) (rightConverts : right.ConvertsOperands)
    (unconverted : converts = false → ScalesTime op left) : result.ConvertsOperands := by
  induction rewrites with
  | folds => trivial
  | settles plain =>
      refine ⟨leftConverts, rightConverts, fun unset => ?_⟩
      obtain ⟨scaling, _, _, isTime⟩ := unconverted unset
      rcases plain with rfl | ⟨leftPlain, _⟩
      · rcases scaling with scaling | scaling <;> cases scaling
      · rw [isTime] at leftPlain
        cases leftPlain
  | @keeps op _ _ _ _ kept =>
      refine ⟨leftConverts, rightConverts, fun unset => ?_⟩
      obtain ⟨scaling, _⟩ := unconverted unset
      rcases scaling with scaling | scaling <;> cases scaling <;> cases kept
  | scales scaling isTime =>
      refine ⟨leftConverts, rightConverts, fun _ => ⟨?_, mode, leftResolved, isTime⟩⟩
      rcases scaling with rfl | rfl
      · exact .inl rfl
      · exact .inr rfl
  | swaps reversed _ ih =>
      refine ih rightResolved leftResolved rightConverts leftConverts fun unset => ?_
      obtain ⟨scaling, _, _, isTime⟩ := unconverted unset
      rcases reversed with ⟨rfl, _⟩ | ⟨_, leftOther, _⟩
      · rcases scaling with scaling | scaling <;> cases scaling
      · exact absurd isTime leftOther
  | addsDays _ _ calls =>
      exact convertsOperands_of_call (Expr.convertsOperands_literal _) leftConverts rightConverts
        calls
  | addsSeconds fraction _ scaled calls =>
      have secondsConverts := convertsOperands_of_daySeconds leftConverts fraction scaled
      exact convertsOperands_of_call (Expr.convertsOperands_literal _) secondsConverts
        rightConverts calls
  | subtractsDays _ _ negated calls =>
      have daysConverts := convertsOperands_of_negation rightConverts negated
      exact convertsOperands_of_call (Expr.convertsOperands_literal _) daysConverts leftConverts
        calls
  | subtractsSeconds _ fraction scales negated calls =>
      have scaledConverts := convertsOperands_of_daySeconds rightConverts fraction scales
      have secondsConverts := convertsOperands_of_negation scaledConverts negated
      exact convertsOperands_of_call (Expr.convertsOperands_literal _) secondsConverts leftConverts
        calls
  | countsDays _ _ calls =>
      exact convertsOperands_of_call (Expr.convertsOperands_literal _) rightConverts leftConverts
        calls

/-- Resolving an expression leaves no operand unconverted but the factor of a time of day. -/
theorem convertsOperands_resolve {expr : Expr} (converts : expr.ConvertsOperands)
    (resolves : expr.resolve mode = .ok result) : result.ConvertsOperands := by
  induction expr generalizing result with
  | literal _ | parameter _ => cases resolves; trivial
  | column reference =>
      simp only [Expr.resolve] at resolves
      split at resolves <;> cases resolves
      trivial
  | negate operand _ ih =>
      obtain ⟨operand', operandIs, negated⟩ := bind_eq_ok.mp resolves
      exact convertsOperands_of_negation (ih converts operandIs) negated
  | binary op left right _ flag leftIH rightIH =>
      obtain ⟨left', leftIs, rest⟩ := bind_eq_ok.mp resolves
      obtain ⟨right', rightIs, operates⟩ := bind_eq_ok.mp rest
      obtain ⟨leftConverts, rightConverts, unconverted⟩ := converts
      refine convertsOperands_of_rewrites (operation_rewrites operates)
        (.of_resolve leftIs) (.of_resolve rightIs) (leftIH leftConverts leftIs)
        (rightIH rightConverts rightIs) fun unset => ?_
      -- The time of day may have been resolved under another mode before.
      obtain ⟨scaling, _, leftResolved, isTime⟩ := unconverted unset
      exact ⟨scaling, mode, .of_resolve leftIs, (leftResolved.resolve_again leftIs).2 isTime⟩
  | call function unit first second _ unitIH firstIH secondIH =>
      obtain ⟨unit', unitIs, rest⟩ := bind_eq_ok.mp resolves
      obtain ⟨first', firstIs, rest⟩ := bind_eq_ok.mp rest
      obtain ⟨second', secondIs, calls⟩ := bind_eq_ok.mp rest
      obtain ⟨unitConverts, firstConverts, secondConverts⟩ := converts
      exact convertsOperands_of_call (unitIH unitConverts unitIs) (firstIH firstConverts firstIs)
        (secondIH secondConverts secondIs) calls
  | aggregate kind argument _ state ih =>
      obtain ⟨argument', argumentIs, rest⟩ := bind_eq_ok.mp resolves
      obtain ⟨type, _, stays⟩ := bind_eq_ok.mp rest
      cases stays
      have argumentConverts := ih converts argumentIs
      exact argumentConverts

end Resolution

/-- The invariant of everything that can be built. -/
theorem Built.convertsOperands {expr : Expr} (built : Built expr) : expr.ConvertsOperands := by
  induction built with
  | literal _ | column _ | parameter _ => trivial
  | negated _ ih => exact ih
  | operation _ _ _ leftIH rightIH => exact ⟨leftIH, rightIH, nofun⟩
  | call _ _ _ _ _ unitIH firstIH secondIH => exact ⟨unitIH, firstIH, secondIH⟩
  | aggregated _ _ ih => exact ih
  | used use _ ih => exact Expr.convertsOperands_apply use ih
  | resolved _ resolves ih => exact convertsOperands_resolve ih resolves

end SqlScalar
