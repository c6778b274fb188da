import Mathlib.Data.List.Perm.Basic
import SqlScalar.Proofs.AggregateRuns
import SqlScalar.Proofs.ConformingRows

/-! # Runs of an aggregate over a column

An aggregate over a column is fed the values that the rows of a group have there. `NULL` changes
nothing, so what an aggregate comes to is settled by the other values in their order. An aggregate
that is reset is as fresh as when it was resolved.
-/

namespace SqlScalar

/-- Whether a context has a value in a column that is `NULL` or of the column's type. -/
structure ColumnRef.Supplies (reference : ColumnRef) (context : Context) (value : Value) :
    Prop where
  evaluates : reference.evaluate context.row = .ok value
  conforms : value.isNull = true ∨ value.type = reference.type

/-- Whether an expression takes the rows of a group one after another and then has a value. -/
def Expr.ComesTo (expr : Expr) (contexts : List Context) (value : Value) : Prop :=
  ∃ fed, expr.feedAll contexts = .ok fed ∧ ∀ last, fed.evaluate last = .ok value

section Supplies

variable {reference : ColumnRef} {contexts reordered : List Context} {inputs : List Value}

/-- Rows in another order supply their values in that order. -/
theorem ColumnRef.supplies_of_perm (supplies : List.Forall₂ reference.Supplies contexts inputs)
    (perm : reordered.Perm contexts) :
    ∃ reorderedInputs, List.Forall₂ reference.Supplies reordered reorderedInputs ∧
      reorderedInputs.Perm inputs :=
  List.perm_comp_forall₂ perm supplies

/-- Rows in another order have the same values in another order. -/
theorem ColumnRef.perm_of_supplies {reorderedInputs : List Value}
    (supplies : List.Forall₂ reference.Supplies contexts inputs)
    (reorderedSupplies : List.Forall₂ reference.Supplies reordered reorderedInputs)
    (perm : reordered.Perm contexts) : reorderedInputs.Perm inputs := by
  obtain ⟨supplied, suppliedThere, suppliedPerm⟩ := supplies_of_perm supplies perm
  have unique : Relator.RightUnique reference.Supplies := fun _ _ _ first second =>
    Except.ok.inj (first.evaluates.symm.trans second.evaluates)
  rwa [List.right_unique_forall₂' unique reorderedSupplies suppliedThere]

/-- A value that is not `NULL` is of the type of the column that supplies it. -/
theorem ColumnRef.type_of_supplies (supplies : List.Forall₂ reference.Supplies contexts inputs) :
    ∀ value ∈ Value.nonNulls inputs, value.type = reference.type := by
  have conforms : ∀ value ∈ inputs, value.isNull = true ∨ value.type = reference.type := by
    induction supplies with
    | nil => exact List.forall_mem_nil _
    | cons supplied _ ih => exact List.forall_mem_cons.mpr ⟨supplied.conforms, ih⟩
  intro value isMember
  obtain ⟨isInput, present⟩ := List.mem_filter.mp isMember
  refine (conforms value isInput).resolve_left ?_
  rwa [Bool.not_eq_true', ← Bool.not_eq_true] at present

/-- A column reference of a known type is bound. -/
theorem ColumnRef.isSome_of_type (typed : reference.type ≠ .unknown) :
    reference.binding.isSome = true := by
  unfold ColumnRef.type at typed
  split at typed
  · rename_i found
    rw [found]
    rfl
  · exact absurd rfl typed

end Supplies

namespace Expr

variable {kind : AggregateKind} {argument : Expr} {resolved : Option DataType}
  {state : AggregateState} {reference : ColumnRef}

/-- A column has the values in some rows that these supply. -/
theorem hasValues_column {contexts : List Context} {inputs : List Value}
    (supplies : List.Forall₂ reference.Supplies contexts inputs) :
    (column reference).HasValues contexts inputs :=
  supplies.imp fun _ _ supplied => supplied.evaluates

/-- An aggregate over a column counts and accumulates the values other than `NULL`. -/
theorem feedAll_column {contexts : List Context} {inputs : List Value} {accumulated : Option Value}
    (supplies : List.Forall₂ reference.Supplies contexts inputs)
    (accumulates : kind.Accumulates resolved state.accumulated (Value.nonNulls inputs)
      accumulated) :
    (aggregate kind (column reference) resolved state).feedAll contexts =
      .ok (aggregate kind (column reference) resolved
        ⟨state.count + (Value.nonNulls inputs).length, accumulated⟩) := by
  have reaches : kind.Reaches resolved state inputs
      ⟨state.count + (Value.nonNulls inputs).length, accumulated⟩ := ⟨rfl, accumulates⟩
  exact feedAll_aggregate_eq_ok_iff.mpr ⟨inputs, _, hasValues_column supplies, reaches, rfl⟩

/-- An aggregate that has been fed any rows is reset to what it is before the first one. -/
theorem reset_of_feedAll {contexts : List Context} {fed : Expr}
    (feeds : (aggregate kind argument resolved state).feedAll contexts = .ok fed) :
    fed.reset = aggregate kind argument resolved .start := by
  induction contexts generalizing state with
  | nil =>
      cases feeds
      rfl
  | cons context rest ih =>
      obtain ⟨middle, feedsFirst, feedsRest⟩ := bind_eq_ok.mp feeds
      obtain ⟨state', rfl⟩ := eq_aggregate_of_feed feedsFirst
      exact ih feedsRest

/-- An aggregate over a bound column is resolved just to have its type. -/
theorem resolve_aggregated_column (mode : Mode) {type : DataType}
    (typed : reference.type ≠ .unknown) (isOutput : kind.outputType reference.type = .ok type) :
    (aggregated kind (column reference)).resolve mode =
      .ok (aggregate kind (column reference) (some type) .start) := by
  have output : kind.outputType (column reference).type = .ok type := isOutput
  simp only [aggregated, resolve, ColumnRef.isSome_of_type typed, ↓reduceIte]
  change (do
    let output ← kind.outputType (column reference).type
    .ok (aggregate kind (column reference) (some output) .start)) = _
  rw [output]
  rfl

end Expr

end SqlScalar
