import SqlScalar.Proofs.ConformingRows
import SqlScalar.Proofs.LaterUse

/-! # Aggregates fed conforming rows

An expression is well fed if its aggregates have only ever been fed conforming rows, be it before
the expression was resolved, after it was, or between two resolutions under different modes. Its
aggregates have then picked values only out of expressions that have a type once resolved.
-/

namespace SqlScalar

open Resolution

/-- Whether a use feeds an expression no other than conforming rows. -/
def Use.Conforms (expr : Expr) : Use → Prop
  | feed context => expr.Conforms context.row
  | bind _ _ | mark _ _ | reset => True

/-- The expressions that can be built and used if aggregates are only fed conforming rows. -/
inductive WellFed : Expr → Prop
  | literal (value : Value) : WellFed (.literal value)
  | column (reference : ColumnRef) : WellFed (.column reference)
  | parameter (index : Index) : WellFed (.parameter index)
  | negated {operand : Expr} (operandFed : WellFed operand) : WellFed (.negated operand)
  | operation (op : BinaryOp) {left right : Expr} (leftFed : WellFed left)
      (rightFed : WellFed right) : WellFed (.operation op left right)
  /-- The arguments of a call may be set anew after it has got a type. -/
  | call (function : DateFunction) {unit first second : Expr} (resolved : Option DataType)
      (unitFed : WellFed unit) (firstFed : WellFed first) (secondFed : WellFed second) :
      WellFed (.call function unit first second resolved)
  | aggregated (kind : AggregateKind) {argument : Expr} (argumentFed : WellFed argument) :
      WellFed (.aggregated kind argument)
  | used {expr : Expr} (use : Use) (conforms : use.Conforms expr) (fed : WellFed expr) :
      WellFed (Use.apply expr use)
  | resolved {expr result : Expr} {mode : Mode} (fed : WellFed expr)
      (resolves : expr.resolve mode = .ok result) : WellFed result

namespace Expr

variable {mode : Mode} {expr expr' result : Expr}

section Change

variable {change : ColumnRef → ColumnRef}
  (keeps : ∀ reference, reference.binding.isSome = true →
    (change reference).binding = reference.binding)

include keeps

/-- A change that leaves bound references bound as they are changes no type in a resolved
expression. -/
theorem alike_mapColumns_of_resolved (resolved : Resolved mode expr) :
    Alike expr (expr.mapColumns change) := by
  induction resolved with
  | literal value => exact .literal value
  | column isBound => exact .column (keeps _ isBound)
  | parameter index => exact .parameter index
  | negate _ _ ih => exact .negate ih
  | binary _ _ _ leftIH rightIH => exact .binary leftIH rightIH
  | call _ _ _ _ _ unitIH firstIH secondIH => exact .call unitIH firstIH secondIH
  | aggregate _ _ ih => exact .aggregate ih

/-- Changing columns leaves an expression fruitful. -/
theorem Fruitful.mapColumns (fruitful : Fruitful expr) : Fruitful (expr.mapColumns change) := by
  induction fruitful with
  | settled resolved typed =>
      have alike := alike_mapColumns_of_resolved keeps resolved
      refine .settled (alike.resolved resolved) ?_
      rw [alike.type_eq]
      exact typed
  | call _ _ _ unitIH firstIH secondIH => exact .call unitIH firstIH secondIH
  | aggregate _ ih => exact .aggregate ih

/-- Changing columns leaves the types of operations as they are. -/
theorem genuineTypes_mapColumns (genuine : expr.GenuineTypes) :
    (expr.mapColumns change).GenuineTypes := by
  have stays {node : Expr} : (∃ mode, Resolved mode node) →
      ∃ mode, Resolved mode (node.mapColumns change) := by
    rintro ⟨mode, resolved⟩
    exact ⟨mode, (alike_mapColumns_of_resolved keeps resolved).resolved resolved⟩
  induction expr with
  | literal _ | column _ | parameter _ => trivial
  | negate _ _ ih => exact ⟨ih genuine.1, fun typed => stays (genuine.2 typed)⟩
  | binary _ _ _ _ _ leftIH rightIH =>
      exact ⟨leftIH genuine.1, rightIH genuine.2.1, fun typed => stays (genuine.2.2 typed)⟩
  | call _ _ _ _ _ unitIH firstIH secondIH =>
      exact ⟨unitIH genuine.1, firstIH genuine.2.1, secondIH genuine.2.2⟩
  | aggregate _ _ _ _ ih => exact ih genuine

/-- Changing columns leaves arguments fruitful. -/
theorem picksFruitful_mapColumns (picks : expr.PicksFruitful) :
    (expr.mapColumns change).PicksFruitful := by
  induction expr with
  | literal _ | column _ | parameter _ => trivial
  | negate _ _ ih => exact ih picks
  | binary _ _ _ _ _ leftIH rightIH => exact ⟨leftIH picks.1, rightIH picks.2⟩
  | call _ _ _ _ _ unitIH firstIH secondIH =>
      exact ⟨⟨unitIH picks.1.1, firstIH picks.1.2⟩, secondIH picks.2⟩
  | aggregate _ _ _ _ ih =>
      exact ⟨ih picks.1, fun isPicked seen => (picks.2 isPicked seen).mapColumns keeps⟩

end Change

/-- Marks and what aggregates have seen have no part in which operations have types. -/
theorem Alike.genuineTypes (alike : Alike expr expr') (genuine : expr.GenuineTypes) :
    expr'.GenuineTypes := by
  induction alike with
  | literal _ | column _ | parameter _ => trivial
  | negate operandAlike ih =>
      refine ⟨ih genuine.1, fun typed => ?_⟩
      obtain ⟨mode, resolved⟩ := genuine.2 typed
      exact ⟨mode, (Alike.negate operandAlike).resolved resolved⟩
  | binary leftAlike rightAlike leftIH rightIH =>
      refine ⟨leftIH genuine.1, rightIH genuine.2.1, fun typed => ?_⟩
      obtain ⟨mode, resolved⟩ := genuine.2.2 typed
      exact ⟨mode, (Alike.binary leftAlike rightAlike).resolved resolved⟩
  | call _ _ _ unitIH firstIH secondIH =>
      exact ⟨unitIH genuine.1, firstIH genuine.2.1, secondIH genuine.2.2⟩
  | aggregate _ ih => exact ih genuine

/-- In a resolved expression all types come from resolution. -/
theorem genuineTypes_of_resolved (resolved : Resolved mode expr) : expr.GenuineTypes := by
  induction resolved with
  | literal _ | column _ | parameter _ => trivial
  | negate operandResolved varying ih => exact ⟨ih, fun _ => ⟨_, .negate operandResolved varying⟩⟩
  | binary leftResolved rightResolved stays leftIH rightIH =>
      exact ⟨leftIH, rightIH, fun _ => ⟨_, .binary leftResolved rightResolved stays⟩⟩
  | call _ _ _ _ _ unitIH firstIH secondIH => exact ⟨unitIH, firstIH, secondIH⟩
  | aggregate _ _ ih => exact ih

/-- Feeding a conforming row has an aggregate pick a value only out of a fruitful argument. -/
theorem picksFruitful_feed {context : Context} (genuine : expr.GenuineTypes)
    (picks : expr.PicksFruitful) (conforms : expr.Conforms context.row) :
    (expr.feed context).subject.PicksFruitful := by
  induction expr with
  | literal _ | column _ | parameter _ => trivial
  | negate _ _ ih => exact ih genuine.1 picks conforms
  | binary _ _ _ _ _ leftIH rightIH =>
      obtain ⟨leftConforms, rightConforms⟩ := conforms_binary.mp conforms
      have leftFed := leftIH genuine.1 picks.1 leftConforms
      have rightFed := rightIH genuine.2.1 picks.2 rightConforms
      simp only [feed]
      split
      · exact ⟨leftFed, picks.2⟩
      · exact ⟨leftFed, rightFed⟩
  | call _ _ _ _ _ unitIH firstIH secondIH =>
      obtain ⟨⟨unitConforms, firstConforms⟩, secondConforms⟩ := conforms_call.mp conforms
      obtain ⟨⟨unitPicks, firstPicks⟩, secondPicks⟩ := picks
      have unitFed := unitIH genuine.1 unitPicks unitConforms
      have firstFed := firstIH genuine.2.1 firstPicks firstConforms
      have secondFed := secondIH genuine.2.2 secondPicks secondConforms
      simp only [feed]
      split
      · exact ⟨⟨unitFed, firstPicks⟩, secondPicks⟩
      · split
        · exact ⟨⟨unitFed, firstFed⟩, secondPicks⟩
        · exact ⟨⟨unitFed, firstFed⟩, secondFed⟩
  | aggregate kind argument resolved state _ =>
      obtain ⟨argumentPicks, picked⟩ := picks
      simp only [feed]
      split
      · exact ⟨argumentPicks, picked⟩
      · rename_i value evaluates
        refine ⟨argumentPicks, fun isPicked seen => ?_⟩
        cases absent : value.isNull with
        | true =>
            rw [AggregateKind.feed, if_pos absent] at seen
            exact picked isPicked seen
        | false =>
            exact fruitful_of_evaluate genuine argumentPicks conforms evaluates absent

/-- Resolving an expression leaves the arguments of its aggregates fruitful. -/
theorem picksFruitful_resolve (picks : expr.PicksFruitful)
    (resolves : expr.resolve mode = .ok result) : result.PicksFruitful := by
  have composes := composes_picksFruitful
  induction expr generalizing result with
  | literal _ | parameter _ => cases resolves; trivial
  | column reference =>
      simp only [Expr.resolve] at resolves
      split at resolves <;> cases resolves
      trivial
  | negate operand _ ih =>
      obtain ⟨operand', operandIs, negated⟩ := bind_eq_ok.mp resolves
      rw [composes.of_negation negated]
      exact ih picks operandIs
  | binary op left right _ converts leftIH rightIH =>
      obtain ⟨left', leftIs, rest⟩ := bind_eq_ok.mp resolves
      obtain ⟨right', rightIs, operates⟩ := bind_eq_ok.mp rest
      rw [composes.of_rewrites (operation_rewrites operates)]
      exact ⟨leftIH picks.1 leftIs, rightIH picks.2 rightIs⟩
  | call function unit first second _ unitIH firstIH secondIH =>
      obtain ⟨unit', unitIs, rest⟩ := bind_eq_ok.mp resolves
      obtain ⟨first', firstIs, rest⟩ := bind_eq_ok.mp rest
      obtain ⟨second', secondIs, calls⟩ := bind_eq_ok.mp rest
      rw [composes.of_call calls]
      exact ⟨⟨unitIH picks.1.1 unitIs, firstIH picks.1.2 firstIs⟩, secondIH picks.2 secondIs⟩
  | aggregate kind argument _ state ih =>
      obtain ⟨argument', argumentIs, rest⟩ := bind_eq_ok.mp resolves
      obtain ⟨type, _, stays⟩ := bind_eq_ok.mp rest
      cases stays
      exact ⟨ih picks.1 argumentIs, fun isPicked seen => (picks.2 isPicked seen).resolve argumentIs⟩

/-- No use that conforms breaks the two invariants. -/
theorem accounted_apply {use : Use} (conforms : use.Conforms expr) (genuine : expr.GenuineTypes)
    (picks : expr.PicksFruitful) :
    (Use.apply expr use).GenuineTypes ∧ (Use.apply expr use).PicksFruitful := by
  cases use with
  | bind table level =>
      have keeps (reference : ColumnRef) (isBound : reference.binding.isSome = true) :
          (reference.bind table level).binding = reference.binding := by
        obtain ⟨binding, bound⟩ := Option.isSome_iff_exists.mp isBound
        simp only [ColumnRef.bind, bound]
      exact ⟨genuineTypes_mapColumns keeps genuine, picksFruitful_mapColumns keeps picks⟩
  | mark table evaluatable =>
      have keeps (reference : ColumnRef) (_ : reference.binding.isSome = true) :
          (reference.setEvaluatable table evaluatable).binding = reference.binding := by
        unfold ColumnRef.setEvaluatable
        split
        · split <;> rfl
        · rfl
      exact ⟨genuineTypes_mapColumns keeps genuine, picksFruitful_mapColumns keeps picks⟩
  | feed context =>
      have alike := alike_feed context expr
      exact ⟨alike.genuineTypes genuine, picksFruitful_feed genuine picks conforms⟩
  | reset =>
      refine ⟨(alike_reset expr).genuineTypes genuine, ?_⟩
      cases expr with
      | aggregate _ _ _ _ => exact ⟨picks.1, fun _ seen => by cases seen⟩
      | literal _ | column _ | parameter _ | negate _ _ | binary _ _ _ _ _ | call _ _ _ _ _ =>
          exact picks

end Expr

/-- The invariant of everything that is only fed conforming rows. -/
theorem WellFed.accounted {expr : Expr} (fed : WellFed expr) :
    expr.GenuineTypes ∧ expr.PicksFruitful := by
  induction fed with
  | literal _ | column _ | parameter _ => exact ⟨trivial, trivial⟩
  | negated _ ih => exact ⟨⟨ih.1, nofun⟩, ih.2⟩
  | operation _ _ _ leftIH rightIH =>
      exact ⟨⟨leftIH.1, rightIH.1, nofun⟩, leftIH.2, rightIH.2⟩
  | call _ _ _ _ _ unitIH firstIH secondIH =>
      exact ⟨⟨unitIH.1, firstIH.1, secondIH.1⟩, ⟨unitIH.2, firstIH.2⟩, secondIH.2⟩
  | aggregated _ _ ih => exact ⟨ih.1, ih.2, fun _ seen => by cases seen⟩
  | used _ conforms _ ih => exact Expr.accounted_apply conforms ih.1 ih.2
  | resolved _ resolves ih =>
      have resultResolved := Resolved.of_resolve resolves
      exact ⟨Expr.genuineTypes_of_resolved resultResolved,
        Expr.picksFruitful_resolve ih.2 resolves⟩

end SqlScalar
