import SqlScalar.Expr.Aggregation
import SqlScalar.Expr.Binding
import SqlScalar.Proofs.ResolvedForm

/-! # Later use of a resolved expression

A resolved expression may be offered another table, have its column references marked, and be
fed rows, in any order. None of this changes the type of a node or makes a constant of one, so
the expression stays resolved all along.
-/

namespace SqlScalar

open Resolution

namespace Expr

/-- Two expressions that differ at most in the marks of column references and in the states of
aggregates. -/
inductive Alike : Expr → Expr → Prop
  | literal (value : Value) : Alike (.literal value) (.literal value)
  | column {reference marked : ColumnRef} (bound : marked.binding = reference.binding) :
      Alike (.column reference) (.column marked)
  | parameter (index : Index) : Alike (.parameter index) (.parameter index)
  | negate {operand operand' : Expr} {resolved : Option DataType}
      (operandAlike : Alike operand operand') :
      Alike (.negate operand resolved) (.negate operand' resolved)
  | binary {op : BinaryOp} {left left' right right' : Expr} {resolved : Option DataType}
      {converts : Bool} (leftAlike : Alike left left') (rightAlike : Alike right right') :
      Alike (.binary op left right resolved converts) (.binary op left' right' resolved converts)
  | call {function : DateFunction} {unit unit' first first' second second' : Expr}
      {resolved : Option DataType} (unitAlike : Alike unit unit') (firstAlike : Alike first first')
      (secondAlike : Alike second second') :
      Alike (.call function unit first second resolved)
        (.call function unit' first' second' resolved)
  | aggregate {kind : AggregateKind} {argument argument' : Expr} {resolved : Option DataType}
      {state state' : AggregateState} (argumentAlike : Alike argument argument') :
      Alike (.aggregate kind argument resolved state) (.aggregate kind argument' resolved state')

namespace Alike

variable {expr expr' : Expr} {mode : Mode}

/-- Any expression is like itself. -/
protected theorem refl (expr : Expr) : Alike expr expr := by
  induction expr with
  | literal value => exact .literal value
  | column reference => exact .column rfl
  | parameter index => exact .parameter index
  | negate _ _ ih => exact .negate ih
  | binary _ _ _ _ _ leftIH rightIH => exact .binary leftIH rightIH
  | call _ _ _ _ _ unitIH firstIH secondIH => exact .call unitIH firstIH secondIH
  | aggregate _ _ _ _ ih => exact .aggregate ih

theorem type_eq (alike : Alike expr expr') : expr'.type = expr.type := by
  cases alike with
  | column bound => simp only [type, ColumnRef.type, bound]
  | literal _ | parameter _ | negate _ | binary _ _ | call _ _ _ | aggregate _ => rfl

theorem isConstant_eq (alike : Alike expr expr') : expr'.isConstant = expr.isConstant := by
  cases alike <;> rfl

theorem constantUnit_eq (alike : Alike expr expr') : constantUnit expr' = constantUnit expr := by
  cases alike <;> rfl

/-- What keeps an operation as it is keeps one with operands that are alike. -/
theorem stays {op : BinaryOp} {left left' right right' : Expr} {type : DataType} {converts : Bool}
    (leftAlike : Alike left left') (rightAlike : Alike right right')
    (stays : Stays mode op left right type converts) :
    Stays mode op left' right' type converts := by
  cases stays with
  | plain plain planned varying =>
      refine .plain ?_ ?_ ?_
      · rw [leftAlike.type_eq, rightAlike.type_eq]
        exact plain
      · rw [leftAlike.type_eq, rightAlike.type_eq]
        exact planned
      · rw [foldable, leftAlike.isConstant_eq, rightAlike.isConstant_eq]
        exact varying
  | temporal kept =>
      rw [← leftAlike.type_eq, ← rightAlike.type_eq] at kept
      exact .temporal kept
  | scaled scaling isTime => exact .scaled scaling (leftAlike.type_eq.trans isTime)

/-- An expression like a resolved one is resolved. -/
theorem resolved (alike : Alike expr expr') (resolved : Resolved mode expr) :
    Resolved mode expr' := by
  induction alike with
  | literal value => exact .literal value
  | column bound =>
      cases resolved with
      | column isBound => exact .column (by rw [bound]; exact isBound)
  | parameter index => exact .parameter index
  | negate operandAlike ih =>
      cases resolved with
      | negate operandResolved varying =>
          rw [← operandAlike.type_eq]
          exact .negate (ih operandResolved) (operandAlike.isConstant_eq.trans varying)
  | binary leftAlike rightAlike leftIH rightIH =>
      cases resolved with
      | binary leftResolved rightResolved stays =>
          have stays := Alike.stays leftAlike rightAlike stays
          exact .binary (leftIH leftResolved) (rightIH rightResolved) stays
  | call unitAlike firstAlike secondAlike unitIH firstIH secondIH =>
      cases resolved with
      | call unitResolved firstResolved secondResolved knownIs varying =>
          rw [← secondAlike.type_eq]
          refine .call (unitIH unitResolved) (firstIH firstResolved) (secondIH secondResolved)
            (unitAlike.constantUnit_eq.trans knownIs) ?_
          rw [closed, unitAlike.isConstant_eq, firstAlike.isConstant_eq,
            secondAlike.isConstant_eq]
          exact varying
  | aggregate argumentAlike ih =>
      cases resolved with
      | aggregate argumentResolved typed =>
          rw [← argumentAlike.type_eq] at typed
          exact .aggregate (ih argumentResolved) typed

end Alike

/-- Changing marks of columns alone leaves an expression alike. -/
theorem alike_mapColumns {change : ColumnRef → ColumnRef}
    (keeps : ∀ reference, (change reference).binding = reference.binding) (expr : Expr) :
    Alike expr (expr.mapColumns change) := by
  induction expr with
  | literal value => exact .literal value
  | column reference => exact .column (keeps reference)
  | parameter index => exact .parameter index
  | negate _ _ ih => exact .negate ih
  | binary _ _ _ _ _ leftIH rightIH => exact .binary leftIH rightIH
  | call _ _ _ _ _ unitIH firstIH secondIH => exact .call unitIH firstIH secondIH
  | aggregate _ _ _ _ ih => exact .aggregate ih

/-- Marking a table leaves an expression alike. -/
theorem alike_setEvaluatable (table : String) (evaluatable : Bool) (expr : Expr) :
    Alike expr (expr.setEvaluatable table evaluatable) := by
  refine alike_mapColumns (fun reference => ?_) expr
  unfold ColumnRef.setEvaluatable
  split
  · split <;> rfl
  · rfl

/-- Feeding a row only changes the states of aggregates, also where it fails. -/
theorem alike_feed (context : Context) (expr : Expr) : Alike expr (expr.feed context).subject := by
  induction expr with
  | literal value => exact .literal value
  | column reference => exact .column rfl
  | parameter index => exact .parameter index
  | negate operand resolved ih => exact .negate ih
  | binary op left right resolved converts leftIH rightIH =>
      simp only [feed]
      split
      · exact .binary leftIH (.refl right)
      · exact .binary leftIH rightIH
  | call function unit first second resolved unitIH firstIH secondIH =>
      simp only [feed]
      split
      · exact .call unitIH (.refl first) (.refl second)
      · split
        · exact .call unitIH firstIH (.refl second)
        · exact .call unitIH firstIH secondIH
  | aggregate kind argument resolved state ih =>
      simp only [feed]
      split
      · exact .refl _
      · exact .aggregate (.refl argument)

theorem alike_reset (expr : Expr) : Alike expr expr.reset := by
  cases expr with
  | aggregate kind argument resolved state => exact .aggregate (.refl argument)
  | literal _ | column _ | parameter _ | negate _ _ | binary _ _ _ _ _ | call _ _ _ _ _ =>
      exact .refl _

/-- Another table binds nothing in a resolved expression. -/
theorem bindColumns_of_resolved {mode : Mode} {expr : Expr} (resolved : Resolved mode expr)
    (table : Table) (level : Nat) : expr.bindColumns table level = expr := by
  unfold bindColumns
  induction resolved with
  | literal value => rfl
  | @column reference isBound =>
      obtain ⟨binding, bound⟩ := Option.isSome_iff_exists.mp isBound
      simp only [mapColumns, ColumnRef.bind, bound]
  | parameter index => rfl
  | negate _ _ ih => rw [mapColumns, ih]
  | binary _ _ _ leftIH rightIH => rw [mapColumns, leftIH, rightIH]
  | call _ _ _ _ _ unitIH firstIH secondIH => rw [mapColumns, unitIH, firstIH, secondIH]
  | aggregate _ _ ih => rw [mapColumns, ih]

end Expr

/-- What may be done to an expression once it is resolved. -/
inductive Use
  | bind (table : Table) (level : Nat)
  | mark (table : String) (evaluatable : Bool)
  | feed (context : Context)
  | reset

namespace Use

/-- The expression a use leaves behind. -/
def apply (expr : Expr) : Use → Expr
  | bind table level => expr.bindColumns table level
  | mark table evaluatable => expr.setEvaluatable table evaluatable
  | feed context => (expr.feed context).subject
  | reset => expr.reset

/-- The expression a sequence of uses leaves behind. -/
def run (expr : Expr) (uses : List Use) : Expr :=
  uses.foldl apply expr

variable {mode : Mode} {expr : Expr}

/-- A resolved expression stays resolved in any use. -/
theorem resolved_apply (resolved : Resolved mode expr) (use : Use) :
    Resolved mode (apply expr use) := by
  cases use with
  | bind table level =>
      rw [apply, Expr.bindColumns_of_resolved resolved]
      exact resolved
  | mark table evaluatable => exact (expr.alike_setEvaluatable table evaluatable).resolved resolved
  | feed context => exact (expr.alike_feed context).resolved resolved
  | reset => exact expr.alike_reset.resolved resolved

theorem resolved_run (resolved : Resolved mode expr) (uses : List Use) :
    Resolved mode (run expr uses) := by
  induction uses generalizing expr with
  | nil => exact resolved
  | cons use uses ih => exact ih (resolved_apply resolved use)

end Use

end SqlScalar
