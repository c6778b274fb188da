import SqlScalar.Proofs.Mentions

/-! # Contexts that agree on an expression

An expression looks at a context through its columns, its parameters and what the mode does with
`NULL` in a concatenation, and through nothing else. Resolution has it mention nothing new, so
what the source expression mentions is all that its value or its failure depends on.
-/

namespace SqlScalar

/-- Whether two contexts are the same to whatever an expression mentions. The size of the row
counts because the failure of a column that lies outside the row tells it. -/
structure Context.AgreesOn (expr : Expr) (context other : Context) : Prop where
  rowSize : context.row.length = other.row.length
  columns : ∀ reference ∈ expr.columns, ∀ binding, reference.binding = some binding →
    context.row[binding.slot.index]? = other.row[binding.slot.index]?
  parameters : ∀ index ∈ expr.parameters,
    context.parameters[index.toNat]? = other.parameters[index.toNat]?
  nullConcatIsNull : context.mode.nullConcatIsNull = other.mode.nullConcatIsNull

namespace Context.AgreesOn

variable {expr part : Expr} {context other : Context}

/-- Contexts that agree on an expression agree on one that mentions no more. -/
theorem mono (agrees : AgreesOn expr context other) (columns : part.columns ⊆ expr.columns)
    (parameters : part.parameters ⊆ expr.parameters) : AgreesOn part context other where
  rowSize := agrees.rowSize
  columns reference mentioned := agrees.columns reference (columns mentioned)
  parameters index mentioned := agrees.parameters index (parameters mentioned)
  nullConcatIsNull := agrees.nullConcatIsNull

variable {left right unit first second : Expr} {resolved : Option DataType}

/-- Contexts that agree on an operation agree on its operands. -/
theorem operands {op : BinaryOp} {converts : Bool}
    (agrees : AgreesOn (.binary op left right resolved converts) context other) :
    AgreesOn left context other ∧ AgreesOn right context other := by
  constructor
  · exact agrees.mono (Multiset.subset_of_le (Multiset.le_add_right _ _))
      (Multiset.subset_of_le (Multiset.le_add_right _ _))
  · exact agrees.mono (Multiset.subset_of_le (Multiset.le_add_left _ _))
      (Multiset.subset_of_le (Multiset.le_add_left _ _))

/-- Contexts that agree on a call agree on its arguments. -/
theorem arguments {function : DateFunction}
    (agrees : AgreesOn (.call function unit first second resolved) context other) :
    AgreesOn unit context other ∧ AgreesOn first context other ∧
      AgreesOn second context other := by
  -- A call mentions what an operation on an operation on the same expressions does.
  have nested : AgreesOn (.binary .concat (.binary .concat unit first none true) second none true)
      context other := agrees.mono (Multiset.Subset.refl _) (Multiset.Subset.refl _)
  obtain ⟨front, secondAgrees⟩ := nested.operands
  obtain ⟨unitAgrees, firstAgrees⟩ := front.operands
  exact ⟨unitAgrees, firstAgrees, secondAgrees⟩

end Context.AgreesOn

/-- An operation depends on the mode only through what it does with `NULL` in a concatenation. -/
theorem BinaryOp.evaluate_congr {mode other : Mode} {op : BinaryOp} {type : DataType}
    {converts : Bool} {left right : Outcome Value}
    (same : mode.nullConcatIsNull = other.nullConcatIsNull) :
    op.evaluate mode type converts left right = op.evaluate other type converts left right := by
  have combines (a b : Value) : op.combine mode a b = op.combine other a b := by
    cases op with
    | concat => simp only [combine, concatenate, same]
    | arith op => rfl
  simp only [evaluate, combines]

/-- A column reference has the same outcome in rows of one size with the same value in its place. -/
theorem ColumnRef.evaluate_congr {reference : ColumnRef} {row other : List Value}
    (size : row.length = other.length)
    (held : ∀ binding, reference.binding = some binding →
      row[binding.slot.index]? = other[binding.slot.index]?) :
    reference.evaluate row = reference.evaluate other := by
  unfold evaluate
  cases bound : reference.binding with
  | none => rfl
  | some binding =>
      dsimp only
      rw [held binding bound, size]

namespace Expr

variable {mode : Mode} {expr result : Expr} {context other : Context}

/-- Any expression, resolved or not, has one outcome in contexts that agree on it. -/
theorem evaluate_congr (agrees : Context.AgreesOn expr context other) :
    expr.evaluate context = expr.evaluate other := by
  induction expr with
  | literal _ => rfl
  | column reference =>
      exact ColumnRef.evaluate_congr agrees.rowSize
        (agrees.columns reference (Multiset.mem_singleton_self reference))
  | parameter index =>
      have held := agrees.parameters index (Multiset.mem_singleton_self index)
      simp only [evaluate, held]
  | negate _ _ ih =>
      have operandSame := ih (agrees.mono (Multiset.Subset.refl _) (Multiset.Subset.refl _))
      simp only [evaluate, operandSame]
  | binary op left right resolved converts leftIH rightIH =>
      obtain ⟨leftAgrees, rightAgrees⟩ := agrees.operands
      have leftSame := leftIH leftAgrees
      have rightSame := rightIH rightAgrees
      simp only [evaluate, leftSame, rightSame, BinaryOp.evaluate_congr agrees.nullConcatIsNull]
  | call function unit first second resolved unitIH firstIH secondIH =>
      obtain ⟨unitAgrees, firstAgrees, secondAgrees⟩ := agrees.arguments
      have unitSame := unitIH unitAgrees
      have firstSame := firstIH firstAgrees
      have secondSame := secondIH secondAgrees
      simp only [evaluate, unitSame, firstSame, secondSame]
  -- The value of an aggregate is what it has seen, whatever the row at hand is.
  | aggregate _ _ _ _ _ => rfl

theorem agreesOn_of_resolve (resolves : expr.resolve mode = .ok result)
    (agrees : Context.AgreesOn expr context other) : Context.AgreesOn result context other := by
  have columns : result.columns = expr.columns := tally_resolve _ resolves
  have parameters : result.parameters = expr.parameters := tally_resolve _ resolves
  exact agrees.mono (columns ▸ Multiset.Subset.refl _) (parameters ▸ Multiset.Subset.refl _)

/-- A resolved expression has the same value or the same failure in any two contexts that agree
on the expression it was resolved from: on the size of the row, the columns and parameters of that
expression, and on what concatenation does with `NULL`. -/
theorem evaluate_eq_of_agreesOn (resolves : expr.resolve mode = .ok result)
    (agrees : Context.AgreesOn expr context other) :
    result.evaluate context = result.evaluate other :=
  evaluate_congr (agreesOn_of_resolve resolves agrees)

/-- A date moved by a number of days and joined to a parameter does not depend on the other column,
on the other parameter, on the product or on what it does with sums. -/
theorem evaluate_of_unmentioned_column :
    let days : ColumnRef := ⟨none, "N", some ⟨"T", ⟨1, .integer⟩, 0⟩, true⟩
    let start : ColumnRef := ⟨some "T", "D", some ⟨"T", ⟨2, .date⟩, 0⟩, false⟩
    let joined := Expr.concat (.arith .plus (.column start) (.column days)) (.parameter 1)
    let dated (first : Value) : List Value := [first, .integer 3, .varchar "2024-02-27"]
    let strict : Context := ⟨.regular, dated .null, [.null, .varchar "!"]⟩
    let lenient : Context := ⟨⟨.oracle, true, true, true⟩, dated (.integer 7),
      [.integer 8, .varchar "!", .null]⟩
    Context.AgreesOn joined strict lenient ∧ ∃ result, joined.resolve .regular = .ok result ∧
      result.evaluate strict = result.evaluate lenient := by
  intro days start joined dated strict lenient
  have agrees : Context.AgreesOn joined strict lenient := by
    refine ⟨rfl, ?_, ?_, rfl⟩
    · intro reference mentioned binding bound
      change reference ∈ ({start} + {days} + 0 : Multiset ColumnRef) at mentioned
      simp only [Multiset.mem_add, Multiset.mem_singleton, Multiset.notMem_zero, or_false]
        at mentioned
      rcases mentioned with rfl | rfl
      · cases bound; rfl
      · cases bound; rfl
    · intro index mentioned
      change index ∈ (0 + 0 + {1} : Multiset Index) at mentioned
      simp only [Multiset.mem_add, Multiset.mem_singleton, Multiset.notMem_zero, false_or]
        at mentioned
      cases mentioned
      rfl
  obtain ⟨result, resolves⟩ : ∃ result, joined.resolve .regular = .ok result := ⟨_, rfl⟩
  exact ⟨agrees, result, resolves, evaluate_eq_of_agreesOn resolves agrees⟩

end Expr

end SqlScalar
