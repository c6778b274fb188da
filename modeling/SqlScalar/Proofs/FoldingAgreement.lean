import SqlScalar.Proofs.PresentValues

/-! # Folding agrees with evaluation

If no value is `NULL`, it makes no difference whether a row is put into an expression before it
is resolved, so that everything is folded, or only when the resolved expression is evaluated.
The two resolved expressions are not folded at the same places, but operand by operand they
have the same types and values.
-/

namespace SqlScalar

open Calendar Resolution

/-- A column reference replaced by its value in a row, if it has one. -/
def ColumnRef.fill (row : List Value) (reference : ColumnRef) : Expr :=
  match reference.evaluate row with
  | .ok value => .literal value
  | .error _ => .column reference

namespace Expr

/-- An expression with its columns replaced by their values in a row. -/
def fill (row : List Value) : Expr → Expr
  | literal value => literal value
  | column reference => reference.fill row
  | parameter index => parameter index
  | negate operand resolved => negate (operand.fill row) resolved
  | binary op left right resolved converts =>
      binary op (left.fill row) (right.fill row) resolved converts
  | call function unit first second resolved =>
      call function (unit.fill row) (first.fill row) (second.fill row) resolved
  | aggregate kind argument resolved state => aggregate kind (argument.fill row) resolved state

/-- An expression over constants and columns that have values of their types in a row, none of
them `NULL`, with calls whose units are constants. -/
def Concrete (row : List Value) : Expr → Prop
  | literal value => value.isNull = false
  | column reference => ∃ value, reference.evaluate row = .ok value ∧ value.isNull = false ∧
      value.type = reference.type
  | negate operand _ => operand.Concrete row
  | binary _ left right _ _ => left.Concrete row ∧ right.Concrete row
  | call _ unit first second _ =>
      unit.isConstant = true ∧ unit.Concrete row ∧ first.Concrete row ∧ second.Concrete row
  | parameter _ | aggregate _ _ _ _ => False

/-- Whether an expression can be resolved to one that has a value in a context. -/
def Yields (context : Context) (expr : Expr) (value : Value) : Prop :=
  ∃ resolved, expr.resolve context.mode = .ok resolved ∧ resolved.evaluate context = .ok value

/-- An expression that only resolves to exact ones. -/
def Steady (context : Context) (expr : Expr) : Prop :=
  ∀ resolved, expr.resolve context.mode = .ok resolved → resolved.Exact context

variable {context other : Context} {row : List Value} {expr : Expr}

theorem eq_named_of_concrete {unit : Expr} (constant : unit.isConstant = true)
    (concrete : unit.Concrete row) : ∃ named, unit = .literal named ∧ named.isNull = false := by
  obtain ⟨named, rfl⟩ := eq_literal_of_isConstant constant
  exact ⟨named, rfl, concrete⟩

/-- A concrete expression is only resolved to exact ones. -/
theorem Concrete.steady (concrete : expr.Concrete context.row) : expr.Steady context := by
  intro resolved resolves
  induction expr generalizing resolved with
  | literal value =>
      cases resolves
      exact exact_literal concrete
  | column reference =>
      obtain ⟨held, evaluates, present, heldType⟩ := concrete
      simp only [resolve] at resolves
      split at resolves <;> cases resolves
      intro value valueIs
      change reference.evaluate context.row = .ok value at valueIs
      rw [evaluates] at valueIs
      cases valueIs
      exact ⟨present, heldType⟩
  | negate operand _ ih =>
      obtain ⟨operand', operandIs, negated⟩ := bind_eq_ok.mp resolves
      exact exact_negation (ih concrete operand' operandIs) negated
  | binary op left right _ converts leftIH rightIH =>
      obtain ⟨left', leftIs, rest⟩ := bind_eq_ok.mp resolves
      obtain ⟨right', rightIs, operates⟩ := bind_eq_ok.mp rest
      exact exact_of_rewrites (operation_rewrites operates) (leftIH concrete.1 left' leftIs)
        (rightIH concrete.2 right' rightIs)
  | call function unit first second _ _ firstIH secondIH =>
      obtain ⟨constant, unitConcrete, firstConcrete, secondConcrete⟩ := concrete
      obtain ⟨named, rfl, present⟩ := eq_named_of_concrete constant unitConcrete
      obtain ⟨unit', unitIs, rest⟩ := bind_eq_ok.mp resolves
      obtain ⟨first', firstIs, rest⟩ := bind_eq_ok.mp rest
      obtain ⟨second', secondIs, calls⟩ := bind_eq_ok.mp rest
      cases unitIs
      exact exact_call present (firstIH firstConcrete first' firstIs)
        (secondIH secondConcrete second' secondIs) calls
  | parameter _ => exact concrete.elim
  | aggregate _ _ _ _ _ => exact concrete.elim

/-- A filled expression needs no row any more. -/
theorem Concrete.fill (concrete : expr.Concrete row) (others : List Value) :
    (expr.fill row).Concrete others := by
  induction expr with
  | literal value => exact concrete
  | column reference =>
      obtain ⟨value, evaluates, present, _⟩ := concrete
      change (reference.fill row).Concrete others
      rw [ColumnRef.fill, evaluates]
      exact present
  | negate _ _ ih => exact ih concrete
  | binary _ _ _ _ _ leftIH rightIH => exact ⟨leftIH concrete.1, rightIH concrete.2⟩
  | call _ unit _ _ _ _ firstIH secondIH =>
      obtain ⟨constant, unitConcrete, firstConcrete, secondConcrete⟩ := concrete
      obtain ⟨named, rfl, present⟩ := eq_named_of_concrete constant unitConcrete
      exact ⟨rfl, present, firstIH firstConcrete, secondIH secondConcrete⟩
  | parameter _ => exact concrete
  | aggregate _ _ _ _ _ => exact concrete

/-- Two expressions each of which only resolves to exact ones, the second of which yields what
the first one does in another context. -/
structure Transfers (context other : Context) (expr expr' : Expr) : Prop where
  steady : expr.Steady context
  steady' : expr'.Steady other
  yields : ∀ value, expr.Yields context value → expr'.Yields other value

namespace Transfers

variable {left left' right right' operand operand' : Expr} {value : Value}

/-- The counterpart of an operand that has a value resolves and agrees with it. -/
theorem agree {expr' resolved : Expr} (transfers : Transfers context other expr expr')
    (resolves : expr.resolve context.mode = .ok resolved) (defined : resolved.Defined context) :
    ∃ resolved', expr'.resolve other.mode = .ok resolved' ∧
      Agree context other resolved resolved' := by
  obtain ⟨value, evaluates⟩ := defined
  obtain ⟨resolved', resolves', evaluates'⟩ :=
    transfers.yields value ⟨resolved, resolves, evaluates⟩
  have exact := transfers.steady resolved resolves value evaluates
  have exact' := transfers.steady' resolved' resolves' value evaluates'
  refine ⟨resolved', resolves', ?_, ?_⟩
  · rw [← exact.2, ← exact'.2]
  · rw [evaluates, evaluates']

/-- A negation yields the same where its operand transfers. -/
theorem yields_negate {type type' : Option DataType}
    (transfers : Transfers context other operand operand')
    (yields : (negate operand type).Yields context value) :
    (negate operand' type').Yields other value := by
  obtain ⟨result, resolves, evaluates⟩ := yields
  obtain ⟨resolved, operandIs, negated⟩ := bind_eq_ok.mp resolves
  have defined := defined_of_negation negated ⟨value, evaluates⟩
  obtain ⟨resolved', operandIs', agree⟩ := transfers.agree operandIs defined
  have same : valueOf other (negation resolved') = valueOf context (negation resolved) := by
    rw [valueOf_negation, valueOf_negation, agree.type, agree.evaluate]
  rw [negated] at same
  obtain ⟨result', negated', evaluates'⟩ := bind_eq_ok.mp (same.trans evaluates)
  exact ⟨result', bind_eq_ok.mpr ⟨resolved', operandIs', negated'⟩, evaluates'⟩

/-- An operation yields the same where its operands transfer. -/
theorem yields_binary {op : BinaryOp} {type type' : Option DataType} {converts : Bool}
    (mode : other.mode = context.mode) (leftTransfers : Transfers context other left left')
    (rightTransfers : Transfers context other right right')
    (yields : (binary op left right type converts).Yields context value) :
    (binary op left' right' type' converts).Yields other value := by
  obtain ⟨result, resolves, evaluates⟩ := yields
  obtain ⟨resolvedLeft, leftIs, rest⟩ := bind_eq_ok.mp resolves
  obtain ⟨resolvedRight, rightIs, operates⟩ := bind_eq_ok.mp rest
  obtain ⟨leftDefined, rightDefined⟩ :=
    defined_of_rewrites (operation_rewrites operates) ⟨value, evaluates⟩
  obtain ⟨resolvedLeft', leftIs', leftAgree⟩ := leftTransfers.agree leftIs leftDefined
  obtain ⟨resolvedRight', rightIs', rightAgree⟩ := rightTransfers.agree rightIs rightDefined
  have same :
      valueOf other (Resolution.operation other.mode op resolvedLeft' resolvedRight' converts) =
        valueOf context
          (Resolution.operation context.mode op resolvedLeft resolvedRight converts) :=
    Agree.valueOf_operation mode leftAgree rightAgree
  rw [operates] at same
  obtain ⟨result', operates', evaluates'⟩ := bind_eq_ok.mp (same.trans evaluates)
  refine ⟨result', bind_eq_ok.mpr ⟨resolvedLeft', leftIs', ?_⟩, evaluates'⟩
  exact bind_eq_ok.mpr ⟨resolvedRight', rightIs', operates'⟩

/-- A call yields the same where its arguments transfer. -/
theorem yields_call {function : DateFunction} {named : Value} {type type' : Option DataType}
    (present : named.isNull = false) (leftTransfers : Transfers context other left left')
    (rightTransfers : Transfers context other right right')
    (yields : (call function (literal named) left right type).Yields context value) :
    (call function (literal named) left' right' type').Yields other value := by
  obtain ⟨result, resolves, evaluates⟩ := yields
  obtain ⟨resolvedUnit, unitIs, rest⟩ := bind_eq_ok.mp resolves
  obtain ⟨resolvedLeft, leftIs, rest⟩ := bind_eq_ok.mp rest
  obtain ⟨resolvedRight, rightIs, calls⟩ := bind_eq_ok.mp rest
  cases unitIs
  obtain ⟨leftDefined, rightDefined⟩ := defined_of_call present calls ⟨value, evaluates⟩
  obtain ⟨resolvedLeft', leftIs', leftAgree⟩ := leftTransfers.agree leftIs leftDefined
  obtain ⟨resolvedRight', rightIs', rightAgree⟩ := rightTransfers.agree rightIs rightDefined
  obtain ⟨known, knownIs, _⟩ := call_eq_ok calls
  have same :
      valueOf other (Resolution.call function (.literal named) resolvedLeft' resolvedRight') =
        valueOf context (Resolution.call function (.literal named) resolvedLeft resolvedRight) :=
    Agree.valueOf_call knownIs leftAgree rightAgree
  rw [calls] at same
  obtain ⟨result', calls', evaluates'⟩ := bind_eq_ok.mp (same.trans evaluates)
  refine ⟨result', bind_eq_ok.mpr ⟨literal named, rfl, ?_⟩, evaluates'⟩
  refine bind_eq_ok.mpr ⟨resolvedLeft', leftIs', ?_⟩
  exact bind_eq_ok.mpr ⟨resolvedRight', rightIs', calls'⟩

end Transfers

section Fill

variable (concrete : expr.Concrete context.row)

include concrete

/-- A concrete expression transfers to the one filled in, once both are known to yield the same. -/
theorem Concrete.transfers
    (yields : ∀ value, expr.Yields context value ↔ (expr.fill context.row).Yields other value) :
    Transfers context other expr (expr.fill context.row) where
  steady := concrete.steady
  steady' := (concrete.fill other.row).steady
  yields value := (yields value).mp

/-- The expression filled in transfers back, once both are known to yield the same. -/
theorem Concrete.transfers_back
    (yields : ∀ value, expr.Yields context value ↔ (expr.fill context.row).Yields other value) :
    Transfers other context (expr.fill context.row) expr where
  steady := (concrete.fill other.row).steady
  steady' := concrete.steady
  yields value := (yields value).mpr

end Fill

/-- An expression and its filled counterpart yield the same values. -/
theorem yields_fill (mode : other.mode = context.mode) (concrete : expr.Concrete context.row)
    (value : Value) : expr.Yields context value ↔ (expr.fill context.row).Yields other value := by
  induction expr generalizing value with
  | literal held =>
      constructor
      · rintro ⟨_, resolves, valueIs⟩
        cases resolves
        exact ⟨literal held, rfl, valueIs⟩
      · rintro ⟨_, resolves, valueIs⟩
        cases resolves
        exact ⟨literal held, rfl, valueIs⟩
  | column reference =>
      obtain ⟨held, evaluates, _⟩ := concrete
      have filled : (column reference).fill context.row = literal held := by
        rw [fill, ColumnRef.fill, evaluates]
      rw [filled]
      constructor
      · rintro ⟨resolved, resolves, valueIs⟩
        simp only [resolve] at resolves
        split at resolves <;> cases resolves
        change reference.evaluate context.row = .ok value at valueIs
        exact ⟨literal held, rfl, evaluates.symm.trans valueIs⟩
      · rintro ⟨resolved, resolves, valueIs⟩
        cases resolves
        have bound : reference.binding.isSome = true := by
          unfold ColumnRef.evaluate at evaluates
          split at evaluates
          · cases evaluates
          · rename_i binding isBound
            rw [isBound]
            rfl
        refine ⟨column reference, ?_, evaluates.trans valueIs⟩
        rw [resolve, if_pos bound]
  | negate operand type ih =>
      have operandConcrete : operand.Concrete context.row := concrete
      have there := operandConcrete.transfers (ih operandConcrete)
      have back := operandConcrete.transfers_back (ih operandConcrete)
      exact ⟨there.yields_negate, back.yields_negate⟩
  | binary op left right type converts leftIH rightIH =>
      have leftThere := concrete.1.transfers (leftIH concrete.1)
      have leftBack := concrete.1.transfers_back (leftIH concrete.1)
      have rightThere := concrete.2.transfers (rightIH concrete.2)
      have rightBack := concrete.2.transfers_back (rightIH concrete.2)
      exact ⟨Transfers.yields_binary mode leftThere rightThere,
        Transfers.yields_binary mode.symm leftBack rightBack⟩
  | call function unit first second type _ firstIH secondIH =>
      obtain ⟨constant, unitConcrete, firstConcrete, secondConcrete⟩ := concrete
      obtain ⟨named, rfl, present⟩ := eq_named_of_concrete constant unitConcrete
      have firstThere := firstConcrete.transfers (firstIH firstConcrete)
      have firstBack := firstConcrete.transfers_back (firstIH firstConcrete)
      have secondThere := secondConcrete.transfers (secondIH secondConcrete)
      have secondBack := secondConcrete.transfers_back (secondIH secondConcrete)
      exact ⟨Transfers.yields_call present firstThere secondThere,
        Transfers.yields_call present firstBack secondBack⟩
  | parameter _ => exact concrete.elim
  | aggregate _ _ _ _ _ => exact concrete.elim

end Expr

/-- Resolving an expression and evaluating it on a row is the same as putting the row into it
first. -/
theorem evaluate_fill_iff {row : List Value} {expr : Expr} (concrete : expr.Concrete row)
    (mode : Mode) (parameters : List Value) (value : Value) :
    (∃ resolved, expr.resolve mode = .ok resolved ∧
      resolved.evaluate ⟨mode, row, parameters⟩ = .ok value) ↔
    ∃ resolved, (expr.fill row).resolve mode = .ok resolved ∧
      resolved.evaluate ⟨mode, [], parameters⟩ = .ok value := by
  let context : Context := ⟨mode, row, parameters⟩
  let other : Context := ⟨mode, [], parameters⟩
  have sameMode : other.mode = context.mode := rfl
  exact Expr.yields_fill sameMode concrete value

/-- Twice a column that holds 21 folds to 42 once the row is put in, because it evaluates to 42
on the row. -/
theorem evaluate_fill_of_doubled_column :
    let doubled := Expr.arith .multiply
      (.column ⟨none, "N", some ⟨"T", ⟨0, .integer⟩, 0⟩, true⟩) (.int 2)
    doubled.Concrete [.integer 21] ∧
      ∃ resolved, (doubled.fill [.integer 21]).resolve .regular = .ok resolved ∧
        resolved.evaluate ⟨.regular, [], []⟩ = .ok (.integer 42) := by
  intro doubled
  have concrete : doubled.Concrete [.integer 21] := ⟨⟨_, rfl, rfl, rfl⟩, rfl⟩
  exact ⟨concrete, (evaluate_fill_iff concrete .regular [] (.integer 42)).mp ⟨_, rfl, rfl⟩⟩

end SqlScalar
