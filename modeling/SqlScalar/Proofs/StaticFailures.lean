import SqlScalar.Expr.CallDraft
import SqlScalar.Proofs.LaterUse

/-! # Static failures

Whether an expression has a type and whether its columns are bound is settled when it is
resolved. From then on only values can make it fail, however it is used. Resolution itself
finds no misuse in any expression.
-/

namespace SqlScalar

open Calendar Resolution

variable {mode : Mode}

section Rules

variable {op : BinaryOp} {left right unit first second : Expr} {type : DataType}
  {converts : Bool}

/-- Folding an operation brings in no failure that was to be found earlier. -/
theorem settled_fold : Settled (fold mode op left right type converts) := by
  unfold fold
  split
  · refine (BinaryOp.settled_evaluate (Spares.ok _) (Spares.ok _)).bind fun value _ => ?_
    exact Spares.ok _
  · exact Spares.ok _

/-- Resolving a negation brings in no failure that was to be found earlier. -/
theorem settled_negation {operand : Expr} : Settled (negation operand) := by
  unfold negation
  simp only
  split
  · exact (settled_evaluateNegation (Spares.ok _)).bind fun value _ => Spares.ok _
  · exact Spares.ok _

/-- A constant unit is refused with a failure of its own kind. -/
theorem settled_constantUnit : Settled (constantUnit unit) := by
  unfold constantUnit
  split
  · rename_i value
    split
    · exact Spares.ok none
    · have settled := settled_parse value.display
      cases reads : TimeUnit.parse value.display with
      | ok parsed => exact Spares.ok (some parsed)
      | error failure => exact Spares.error (settled failure reads)
  · exact Spares.ok none

/-- Resolving a call brings in no failure that was to be found earlier. -/
theorem settled_call {function : DateFunction} :
    Settled (Resolution.call function unit first second) := by
  unfold Resolution.call
  refine settled_constantUnit.bind fun known _ => ?_
  simp only
  split
  · refine (DateFunction.settled_evaluate (Spares.ok _) (Spares.ok _) (Spares.ok _)).bind ?_
    exact fun value _ => Spares.ok _
  · exact Spares.ok _

/-- Planning an operation finds nothing incomplete. -/
theorem spares_unready_plan (leftType rightType : DataType) :
    Spares Failure.isUnready (plan mode op leftType rightType) := by
  cases op with
  | concat => exact Spares.ok _
  | arith op =>
      simp only [plan]
      split
      · split <;> exact Spares.ok _
      · refine Spares.bind ?_ fun common _ => ?_
        · unfold DataType.promote
          split
          · exact Spares.error rfl
          · exact Spares.ok _
        · split <;> exact Spares.ok _

/-- Resolving an operation without a temporal reading finds nothing incomplete. -/
theorem spares_unready_operation_of_plain (plain : Plain op left.type right.type) :
    Spares Failure.isUnready (operation mode op left right converts) := by
  rw [operation_of_plain plain]
  exact (spares_unready_plan left.type right.type).bind fun _ _ => settled_fold.spares_unready

theorem spares_unready_daySeconds {days : Expr} (fraction : days.type.isFractional = true) :
    Spares Failure.isUnready (numeric mode .multiply .daySeconds days true) := by
  rw [numeric_daySeconds fraction]
  exact spares_unready_operation_of_plain (plain_daySeconds fraction)

/-- Resolving a sum in order finds nothing incomplete. -/
theorem spares_unready_orderedSum :
    Spares Failure.isUnready (orderedSum mode left right converts) := by
  unfold orderedSum
  simp only
  split
  · exact settled_call.spares_unready
  · split
    · rename_i fraction
      exact (spares_unready_daySeconds fraction).bind fun _ _ => settled_call.spares_unready
    · split
      · split <;> exact Spares.ok _
      · exact Spares.error rfl

/-- Resolving a difference with a temporal operand finds nothing incomplete. -/
theorem spares_unready_temporalDifference :
    Spares Failure.isUnready (temporalDifference mode left right converts) := by
  unfold temporalDifference
  simp only
  split
  · split
    · exact settled_negation.spares_unready.bind fun _ _ => settled_call.spares_unready
    · split
      · rename_i fraction
        refine (spares_unready_daySeconds fraction).bind fun scaled _ => ?_
        exact settled_negation.spares_unready.bind fun _ _ => settled_call.spares_unready
      · split
        · exact Spares.ok _
        · split
          · exact settled_call.spares_unready
          · exact Spares.error rfl
  · split
    · exact Spares.ok _
    · exact Spares.error rfl

/-- Resolving arithmetic with a temporal operand finds nothing incomplete. -/
theorem spares_unready_temporal (op : ArithOp) :
    Spares Failure.isUnready (temporal mode op left right converts) := by
  cases op with
  | plus =>
      simp only [temporal, temporalSum]
      split <;> exact spares_unready_orderedSum
  | minus => exact spares_unready_temporalDifference
  | multiply =>
      simp only [temporal]
      split
      · exact Spares.ok _
      · split
        · exact Spares.ok _
        · exact Spares.error rfl
  | divide =>
      simp only [temporal]
      split
      · exact Spares.ok _
      · exact Spares.error rfl
  | modulus => exact Spares.error rfl

theorem spares_unready_operation :
    Spares Failure.isUnready (operation mode op left right converts) := by
  rcases plain_or_temporal op left.type right.type with plain | ⟨op, rfl, isTemporal⟩
  · exact spares_unready_operation_of_plain plain
  · rw [operation_of_temporal isTemporal]
    exact spares_unready_temporal op

theorem spares_unready_outputType (kind : AggregateKind) (argument : DataType) :
    Spares Failure.isUnready (kind.outputType argument) := by
  cases kind with
  | count | min | max => exact Spares.ok _
  | sum => cases argument <;> first | exact Spares.ok _ | exact Spares.error rfl

end Rules

/-- Resolving an expression finds nothing in it that is incomplete or used too early. -/
theorem spares_unready_resolve (expr : Expr) : Spares Failure.isUnready (expr.resolve mode) := by
  induction expr with
  | literal value => exact Spares.ok _
  | column reference =>
      simp only [Expr.resolve]
      split
      · exact Spares.ok _
      · exact Spares.error rfl
  | parameter index => exact Spares.ok _
  | negate operand _ ih => exact ih.bind fun _ _ => settled_negation.spares_unready
  | binary op left right _ converts leftIH rightIH =>
      exact leftIH.bind fun _ _ => rightIH.bind fun _ _ => spares_unready_operation
  | call function unit first second _ unitIH firstIH secondIH =>
      exact unitIH.bind fun _ _ => firstIH.bind fun _ _ => secondIH.bind fun _ _ =>
        settled_call.spares_unready
  | aggregate kind argument _ state ih =>
      refine ih.bind fun argument _ => ?_
      exact (spares_unready_outputType kind argument.type).bind fun _ _ => Spares.ok _

/-- No expression is misused by resolving it. -/
theorem spares_misuse_resolve (expr : Expr) : Spares Failure.isMisuse (expr.resolve mode) := by
  refine (spares_unready_resolve expr).mono fun failure ready => ?_
  cases failure <;> first | rfl | cases ready

theorem spares_misuse_draft (draft : CallDraft) : Spares Failure.isMisuse (draft.resolve mode) := by
  refine Spares.bind ?_ fun call _ => spares_misuse_resolve call
  unfold CallDraft.complete
  split
  · exact Spares.ok _
  · exact Spares.error rfl

section Running

variable {expr : Expr}

/-- A resolved expression fails for no static reason when it is evaluated. -/
theorem settled_evaluate (resolved : Resolved mode expr) (context : Context) :
    Settled (expr.evaluate context) := by
  induction resolved with
  | literal value => exact Spares.ok value
  | @column reference isBound =>
      obtain ⟨binding, bound⟩ := Option.isSome_iff_exists.mp isBound
      simp only [Expr.evaluate, ColumnRef.evaluate, bound]
      split
      · exact Spares.ok _
      · exact Spares.error rfl
  | parameter index =>
      simp only [Expr.evaluate]
      split
      · exact Spares.ok _
      · exact Spares.error rfl
  | negate _ _ ih => exact settled_evaluateNegation ih
  | binary _ _ _ leftIH rightIH => exact BinaryOp.settled_evaluate leftIH rightIH
  | call _ _ _ _ _ unitIH firstIH secondIH =>
      exact DateFunction.settled_evaluate unitIH firstIH secondIH
  | aggregate _ _ _ => exact Spares.ok _

theorem settled_addSummand (type : DataType) (sum : Option Value) (value : Value) :
    Settled (AggregateKind.addSummand type sum value) := by
  refine (Value.settled_convertTo value type).bind fun converted _ => ?_
  cases sum with
  | none => exact Spares.ok converted
  | some sum => exact Value.settled_arith .plus sum converted

/-- A resolved aggregate accumulates values without a failure that was to be found earlier. -/
theorem settled_accumulate (kind : AggregateKind) (type : DataType) (sql : String)
    (accumulated : Option Value) (value : Value) :
    Settled (kind.accumulate (some type) sql accumulated value) := by
  cases kind with
  | count | min | max => exact Spares.ok _
  | sum => exact (settled_addSummand type accumulated value).bind fun _ _ => Spares.ok _

/-- A resolved expression fails for no static reason when its aggregates are fed a row. -/
theorem settled_feed (resolved : Resolved mode expr) (context : Context) :
    Settled (expr.feed context).outcome := by
  induction resolved with
  | literal _ | column _ | parameter _ => exact Spares.ok ()
  | negate _ _ ih => exact ih
  | binary _ _ _ leftIH rightIH =>
      simp only [Expr.feed]
      split
      · rename_i failure fails
        exact Spares.error (leftIH failure fails)
      · exact rightIH
  | call _ _ _ _ _ unitIH firstIH secondIH =>
      simp only [Expr.feed]
      split
      · rename_i failure fails
        exact Spares.error (unitIH failure fails)
      · split
        · rename_i failure fails
          exact Spares.error (firstIH failure fails)
        · exact secondIH
  | @aggregate kind argument type state argumentResolved _ _ =>
      simp only [Expr.feed]
      split
      · rename_i failure fails
        exact Spares.error (settled_evaluate argumentResolved context failure fails)
      · unfold AggregateKind.feed
        split
        · exact Spares.ok ()
        · split
          · exact Spares.ok ()
          · rename_i failure fails
            exact Spares.error (settled_accumulate kind type _ _ _ failure fails)

end Running

/-- Resolving finds no misuse. Whatever is done with a resolved expression, neither evaluating
it nor feeding it another row fails for a static reason. -/
theorem resolution_settles_static_failures (mode : Mode) :
    (∀ expr : Expr, Spares Failure.isMisuse (expr.resolve mode)) ∧
    (∀ draft : CallDraft, Spares Failure.isMisuse (draft.resolve mode)) ∧
    ∀ expr result : Expr, expr.resolve mode = .ok result →
      ∀ (uses : List Use) (context : Context),
        Settled ((Use.run result uses).evaluate context) ∧
        Settled ((Use.run result uses).feed context).outcome := by
  refine ⟨fun expr => spares_misuse_resolve expr, fun draft => spares_misuse_draft draft, ?_⟩
  intro expr result resolves uses context
  have resolved := Use.resolved_run (Resolved.of_resolve resolves) uses
  exact ⟨settled_evaluate resolved context, settled_feed resolved context⟩

/-- The sum of a parameter and one over a group fails for no static reason. -/
theorem static_failures_of_running_sum :
    ∃ result, (Expr.aggregated .sum (.arith .plus (.parameter 0) (.int 1))).resolve .regular =
        .ok result ∧
      ∀ (uses : List Use) (context : Context),
        Settled ((Use.run result uses).evaluate context) ∧
        Settled ((Use.run result uses).feed context).outcome :=
  ⟨_, rfl, (resolution_settles_static_failures .regular).2.2
    (.aggregated .sum (.arith .plus (.parameter 0) (.int 1))) _ rfl⟩

end SqlScalar
