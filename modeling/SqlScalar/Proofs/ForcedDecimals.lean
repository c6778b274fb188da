import SqlScalar.Proofs.ConformingRows
import SqlScalar.Proofs.NodeValues
import SqlScalar.Proofs.PresentValues
import SqlScalar.Proofs.WholeValues

/-! # Arithmetic that is forced to be decimal

Where a mode forces arithmetic to be decimal, whole numbers are computed as decimal numbers
without digits behind the point. As long as the whole numbers do not overflow, no number comes
out differently.
-/

namespace SqlScalar

open Resolution

namespace Resolution

section Plan

variable {mode : Mode} {op : ArithOp} {left right : DataType}

/-- The types operands have in arithmetic on whole numbers, forced to be decimal or not. -/
def operandTypes : List DataType :=
  [.null, .integer, .bigint, .decimal]

theorem mem_operandTypes_of_isWhole {type : DataType} (whole : type.isWhole = true) :
    type ∈ operandTypes := by
  cases type <;> first | decide | cases whole

theorem isTemporal_of_mem {type : DataType} (isMember : type ∈ operandTypes) :
    type.isTemporal = false := by
  revert type
  decide

/-- Arithmetic on such operands stays what it is, unless both are `NULL`. -/
theorem plan_of_mem (leftType : left ∈ operandTypes) (rightType : right ∈ operandTypes)
    (typed : ¬ (left = .null ∧ right = .null)) :
    plan mode (.arith op) left right =
      .ok (.arith op, arithmeticType mode (DataType.preferred left right)) := by
  simp only [operandTypes, List.mem_cons, List.not_mem_nil, or_false] at leftType rightType
  rcases leftType with rfl | rfl | rfl | rfl <;> rcases rightType with rfl | rfl | rfl | rfl <;>
    first | rfl | exact absurd ⟨rfl, rfl⟩ typed

/-- Arithmetic on such operands is done in the preferred type, or on decimal numbers if it is
forced to be. -/
theorem operation_of_mem {left right : Expr} {converts : Bool} (leftType : left.type ∈ operandTypes)
    (rightType : right.type ∈ operandTypes) (typed : ¬ (left.type = .null ∧ right.type = .null)) :
    operation mode (.arith op) left right converts =
      fold mode (.arith op) left right
        (arithmeticType mode (DataType.preferred left.type right.type)) converts := by
  have plain : Plain (.arith op) left.type right.type :=
    .inr ⟨isTemporal_of_mem leftType, isTemporal_of_mem rightType⟩
  rw [operation_of_plain plain, plan_of_mem leftType rightType typed]
  rfl

/-- The preferred type of whole numbers and `NULL` is that of whole numbers, unless both are
`NULL`. -/
theorem isWhole_preferred (leftType : left = .null ∨ left.isWhole = true)
    (rightType : right = .null ∨ right.isWhole = true) (typed : ¬ (left = .null ∧ right = .null)) :
    (DataType.preferred left right).isWhole = true := by
  rw [DataType.isWhole_iff] at leftType rightType
  rcases leftType with rfl | rfl | rfl <;> rcases rightType with rfl | rfl | rfl <;>
    first | rfl | exact absurd ⟨rfl, rfl⟩ typed

end Plan

section Shape

variable {mode : Mode} {op : BinaryOp} {left right operand result : Expr} {type : DataType}
  {converts : Bool}

/-- What was folded is a constant if both operands are, and has the type of the operation
otherwise. -/
theorem shape_of_fold (folds : fold mode op left right type converts = .ok result) :
    result.isConstant = foldable left right ∧ (result.isConstant = false → result.type = type) := by
  rcases fold_eq_ok folds with ⟨a, b, value, rfl, rfl, _, rfl⟩ | ⟨varying, rfl⟩
  · exact ⟨rfl, nofun⟩
  · exact ⟨varying.symm, fun _ => rfl⟩

/-- A negation is a constant just if its operand is, and otherwise has the type its operand gives
it. -/
theorem shape_of_negation (negated : negation operand = .ok result) :
    result.isConstant = operand.isConstant ∧
      (result.isConstant = false → result.type = negationType operand.type) := by
  rcases negation_eq_ok negated with ⟨a, value, rfl, _, rfl⟩ | ⟨varying, rfl⟩
  · exact ⟨rfl, nofun⟩
  · exact ⟨varying.symm, fun _ => rfl⟩

/-- Arithmetic on `NULL` is `NULL`. -/
theorem operation_of_nulls (op : ArithOp) :
    operation mode (.arith op) (.literal .null) (.literal .null) true =
      .ok (.literal .null) := by
  have concatenates : concatenate mode .null .null = .null := by
    simp only [concatenate, Value.isNull, ↓reduceIte, ite_self]
  simp only [operation, arithmetic, Expr.type, Value.type, DataType.isUntyped, and_self, ↓reduceIte,
    untyped]
  split
  · change Except.ok (Expr.literal (concatenate mode .null .null)) = _
    rw [concatenates]
  · rfl

end Shape

end Resolution

namespace Expr

/-- Whether an expression is made of whole numbers, `NULL` and columns of whole numbers by
arithmetic other than division. -/
def OnWholes : Expr → Prop
  | literal value => value.IsWholeOrNull
  | column reference => reference.type.isWhole = true
  | negate operand _ => operand.OnWholes
  | binary (.arith op) left right _ converts =>
      (op ≠ .divide ∧ converts = true) ∧ left.OnWholes ∧ right.OnWholes
  | _ => False

/-- What a resolved expression and its value become where arithmetic is forced to be decimal.
Constants stay constants, and only what is computed becomes decimal. -/
inductive Widens : Expr → Value → Expr → Value → Prop
  | null : Widens (literal .null) .null (literal .null) .null
  | same {expr : Expr} {value : Value} (whole : expr.type.isWhole = true)
      (holds : value.IsWholeOrNull) : Widens expr value expr value
  | decimal {expr expr' : Expr} {value value' : Value}
      (constant : expr'.isConstant = expr.isConstant) (whole : expr.type.isWhole = true)
      (forced : expr'.type = .decimal) (widens : value.Widens value') :
      Widens expr value expr' value'

variable {context other : Context} {expr expr' left left' right right' result : Expr}
  {value value' a a' b b' : Value}

namespace Widens

theorem holds (widens : expr.Widens value expr' value') : value.IsWholeOrNull := by
  cases widens with
  | null => exact .inl rfl
  | same _ holds => exact holds
  | decimal _ _ _ widens => exact widens.holds

theorem type (widens : expr.Widens value expr' value') :
    expr.type = .null ∨ expr.type.isWhole = true := by
  cases widens with
  | null => exact .inl rfl
  | same whole _ => exact .inr whole
  | decimal _ whole _ _ => exact .inr whole

theorem mem (widens : expr.Widens value expr' value') : expr.type ∈ operandTypes := by
  rcases widens.type with isNull | whole
  · rw [isNull]
    decide
  · exact mem_operandTypes_of_isWhole whole

/-- What it is widened to has a type that operands have here. -/
theorem mem' (widens : expr.Widens value expr' value') : expr'.type ∈ operandTypes := by
  cases widens with
  | null => decide
  | same whole _ => exact mem_operandTypes_of_isWhole whole
  | decimal _ _ forced _ =>
      rw [forced]
      decide

theorem constant (widens : expr.Widens value expr' value') :
    expr'.isConstant = expr.isConstant := by
  cases widens with
  | null | same _ _ => rfl
  | decimal constant _ _ _ => exact constant

theorem place (widens : expr.Widens value expr' value') : value' = value ∨ value.Widens value' := by
  cases widens with
  | null | same _ _ => exact .inl rfl
  | decimal _ _ _ widens => exact .inr widens

/-- Only what is `NULL` itself has its type, in both modes. -/
theorem null_iff (widens : expr.Widens value expr' value') :
    expr.type = .null ↔ expr'.type = .null := by
  cases widens with
  | null | same _ _ => rfl
  | decimal _ whole forced _ =>
      rw [forced]
      constructor
      · intro isNull
        rw [isNull] at whole
        cases whole
      · nofun

/-- Only `NULL` takes the place of `NULL`. -/
theorem eq_null (widens : expr.Widens value expr' value') (isNull : expr.type = .null) :
    (expr = literal .null ∧ value = .null) ∧ expr' = literal .null ∧ value' = .null := by
  cases widens with
  | null => exact ⟨⟨rfl, rfl⟩, rfl, rfl⟩
  | same whole _ =>
      rw [isNull] at whole
      cases whole
  | decimal _ whole _ _ =>
      rw [isNull] at whole
      cases whole

/-- A widened value takes the place of another one together with the node that is resolved to
compute it, which is decimal unless it is folded. -/
theorem exists_of_valueOf {resolves : Outcome Expr} {type : DataType} {constant : Bool}
    (shape : result.isConstant = constant ∧ (result.isConstant = false → result.type = type))
    (shape' : ∀ result', resolves = .ok result' →
      result'.isConstant = constant ∧ (result'.isConstant = false → result'.type = .decimal))
    (whole : type.isWhole = true) (yields : result.evaluate context = .ok value)
    (computes : valueOf other resolves = .ok value') (widens : value.Widens value') :
    ∃ result' value', resolves = .ok result' ∧ result'.evaluate other = .ok value' ∧
      result.Widens value result' value' := by
  obtain ⟨result', isResult, yields'⟩ := bind_eq_ok.mp computes
  obtain ⟨isConstant, typed⟩ := shape
  obtain ⟨isConstant', typed'⟩ := shape' result' isResult
  refine ⟨result', value', isResult, yields', ?_⟩
  cases constant with
  | false =>
      refine .decimal (isConstant'.trans isConstant.symm) ?_ (typed' isConstant') widens
      rw [typed isConstant]
      exact whole
  | true =>
      obtain ⟨held, rfl⟩ := eq_literal_of_isConstant isConstant
      obtain ⟨held', rfl⟩ := eq_literal_of_isConstant isConstant'
      cases yields
      cases yields'
      cases widens with
      | null => exact .null
      | decimal valueWhole counts same =>
          exact .decimal rfl valueWhole rfl (.decimal valueWhole counts same)

/-- A negated whole number is one again, and so is its type. -/
theorem whole_of_negation (whole : expr.type.isWhole = true)
    (evaluates : expr.evaluate context = .ok a) (negated : Resolution.negation expr = .ok result)
    (yields : result.evaluate context = .ok value) :
    result.type.isWhole = true ∧ value.IsWholeOrNull := by
  have computes := (evaluate_of_negation negated).symm.trans yields
  obtain ⟨isConstant, typed⟩ := shape_of_negation negated
  rw [negationType_of_typed (DataType.isUntyped_of_isWhole whole)] at computes typed
  cases varying : expr.isConstant with
  | false =>
      rw [typed (isConstant.trans varying)]
      refine ⟨whole, ?_⟩
      rcases evaluateNegation_type (DataType.ne_unknown_of_isWhole whole) computes with rfl | same
      · exact .inl rfl
      · rw [← same] at whole
        exact .inr whole
  | true =>
      obtain ⟨held, rfl⟩ := eq_literal_of_isConstant varying
      obtain ⟨folded, rfl⟩ := eq_literal_of_isConstant (isConstant.trans varying)
      cases evaluates
      cases yields
      have valueType := evaluateNegation_type_of_present rfl (Value.isNull_of_isWhole whole)
        (DataType.isUntyped_of_isWhole whole) computes
      change value.type.isWhole = true ∧ _
      rw [← valueType] at whole
      exact ⟨whole, .inr whole⟩

/-- A negation is widened with its operand, and stays what it is if the operand does. -/
theorem negation (widens : expr.Widens a expr' a') (evaluates : expr.evaluate context = .ok a)
    (evaluates' : expr'.evaluate other = .ok a') (negated : Resolution.negation expr = .ok result)
    (yields : result.evaluate context = .ok value) :
    ∃ result' value', Resolution.negation expr' = .ok result' ∧
      result'.evaluate other = .ok value' ∧ result.Widens value result' value' := by
  have computes := (evaluate_of_negation negated).symm.trans yields
  rw [evaluates] at computes
  cases widens with
  | null =>
      cases negated
      cases yields
      exact ⟨literal .null, .null, rfl, rfl, .null⟩
  | same whole holds =>
      obtain ⟨resultWhole, valueHolds⟩ := whole_of_negation whole evaluates negated yields
      refine ⟨result, value, negated, ?_, .same resultWhole valueHolds⟩
      rw [evaluate_of_negation negated, evaluates']
      exact computes
  | decimal constant whole forced widens =>
      have shape := shape_of_negation negated
      rw [negationType_of_typed (DataType.isUntyped_of_isWhole whole)] at computes shape
      obtain ⟨held, converted, isHeld, converts, negates⟩ := evaluateNegation_eq_ok.mp computes
      cases isHeld
      obtain ⟨converted', converts', widens', _⟩ :=
        Value.widens_convertTo widens.holds whole (.inr widens) converts
      obtain ⟨value', negates', valueWidens⟩ := Value.widens_negate widens' negates
      have computes' : valueOf other (Resolution.negation expr') = .ok value' := by
        rw [valueOf_negation, forced, evaluates']
        exact evaluateNegation_eq_ok.mpr ⟨a', converted', rfl, converts', negates'⟩
      refine exists_of_valueOf shape (fun result' negated' => ?_) whole yields computes' valueWidens
      have shape' := shape_of_negation negated'
      rw [constant, forced] at shape'
      exact shape'

/-- Arithmetic on widened operands is computed with decimal numbers, and has the same result. -/
theorem operation {op : ArithOp} (noQuotient : op ≠ .divide)
    (unforced : context.mode.forceDecimal = false) (forced : other.mode.forceDecimal = true)
    (leftWidens : left.Widens a left' a') (leftIs : left.evaluate context = .ok a)
    (leftIs' : left'.evaluate other = .ok a') (rightWidens : right.Widens b right' b')
    (rightIs : right.evaluate context = .ok b) (rightIs' : right'.evaluate other = .ok b')
    (operates : Resolution.operation context.mode (.arith op) left right true = .ok result)
    (yields : result.evaluate context = .ok value) :
    ∃ result' value', Resolution.operation other.mode (.arith op) left' right' true = .ok result' ∧
      result'.evaluate other = .ok value' ∧ result.Widens value result' value' := by
  by_cases nulls : left.type = .null ∧ right.type = .null
  · obtain ⟨⟨rfl, rfl⟩, rfl, rfl⟩ := leftWidens.eq_null nulls.1
    obtain ⟨⟨rfl, rfl⟩, rfl, rfl⟩ := rightWidens.eq_null nulls.2
    rw [operation_of_nulls] at operates ⊢
    cases operates
    cases yields
    exact ⟨literal .null, .null, rfl, rfl, .null⟩
  · have nulls' : ¬ (left'.type = .null ∧ right'.type = .null) := by
      rw [← leftWidens.null_iff, ← rightWidens.null_iff]
      exact nulls
    have whole := isWhole_preferred leftWidens.type rightWidens.type nulls
    rw [operation_of_mem leftWidens.mem rightWidens.mem nulls, arithmeticType, unforced] at operates
    rw [operation_of_mem leftWidens.mem' rightWidens.mem' nulls', arithmeticType, forced]
    simp only [Bool.false_eq_true, ↓reduceIte] at operates ⊢
    have computes := (evaluate_of_fold operates).symm.trans yields
    rw [leftIs, rightIs] at computes
    obtain ⟨_, c, _, d, isLeft, leftConverts, isRight, rightConverts, combines⟩ :=
      BinaryOp.evaluate_eq_ok.mp computes
    cases isLeft
    cases isRight
    obtain ⟨c', leftConverts', leftPlace, leftType⟩ :=
      Value.widens_convertTo leftWidens.holds whole leftWidens.place leftConverts
    obtain ⟨d', rightConverts', rightPlace, rightType⟩ :=
      Value.widens_convertTo rightWidens.holds whole rightWidens.place rightConverts
    obtain ⟨value', combines', widens⟩ :=
      Value.widens_combine noQuotient whole leftType rightType leftPlace rightPlace combines
        other.mode
    have computes' :
        valueOf other (fold other.mode (.arith op) left' right' .decimal true) = .ok value' := by
      rw [valueOf_fold, leftIs', rightIs']
      exact BinaryOp.evaluate_eq_ok.mpr
        ⟨a', c', b', d', rfl, leftConverts', rfl, rightConverts', combines'⟩
    refine exists_of_valueOf (shape_of_fold operates) (fun result' operates' => ?_) whole yields
      computes' widens
    have shape' := shape_of_fold operates'
    rw [foldable, leftWidens.constant, rightWidens.constant] at shape'
    exact shape'

end Widens

/-- Under a mode that forces arithmetic to be decimal, an expression on whole numbers is resolved
to one that widens what it is resolved to otherwise, and has a value wherever the other has. -/
theorem widens_of_onWholes (unforced : context.mode.forceDecimal = false)
    (forced : other.mode.forceDecimal = true) (row : other.row = context.row)
    (onWholes : expr.OnWholes) (conforms : expr.Conforms context.row)
    (resolves : expr.resolve context.mode = .ok result)
    (yields : result.evaluate context = .ok value) :
    ∃ result' value', expr.resolve other.mode = .ok result' ∧
      result'.evaluate other = .ok value' ∧ result.Widens value result' value' := by
  induction expr generalizing result value with
  | literal held =>
      cases resolves
      cases yields
      refine ⟨literal held, held, rfl, rfl, ?_⟩
      rcases onWholes with rfl | whole
      · exact .null
      · exact .same whole (.inr whole)
  | column reference =>
      have holds : reference.evaluate context.row = .ok value := by
        simp only [resolve] at resolves
        split at resolves <;> cases resolves
        exact yields
      rw [resolve_column holds] at resolves
      cases resolves
      have holds' : reference.evaluate other.row = .ok value := by
        rw [row]
        exact holds
      refine ⟨column reference, value, resolve_column holds', holds', .same onWholes ?_⟩
      rcases conforms_column.mp conforms value holds with absent | typed
      · cases value <;> first | exact .inl rfl | cases absent
      · refine .inr ?_
        rw [typed]
        exact onWholes
  | negate operand _ ih =>
      obtain ⟨operand', operandIs, negated⟩ := bind_eq_ok.mp resolves
      have computes := (evaluate_of_negation negated).symm.trans yields
      obtain ⟨a, _, evaluates, _⟩ := evaluateNegation_eq_ok.mp computes
      obtain ⟨operand'', a', operandIs', evaluates', widens⟩ :=
        ih onWholes conforms operandIs evaluates
      obtain ⟨result', value', negated', yields', resultWidens⟩ :=
        widens.negation evaluates evaluates' negated yields
      exact ⟨result', value', bind_eq_ok.mpr ⟨operand'', operandIs', negated'⟩, yields',
        resultWidens⟩
  | binary op left right _ converts leftIH rightIH =>
      cases op with
      | concat => exact onWholes.elim
      | arith op =>
          obtain ⟨⟨noQuotient, rfl⟩, leftWholes, rightWholes⟩ := onWholes
          obtain ⟨leftConforms, rightConforms⟩ := conforms_binary.mp conforms
          obtain ⟨settledLeft, leftIs, rest⟩ := bind_eq_ok.mp resolves
          obtain ⟨settledRight, rightIs, operates⟩ := bind_eq_ok.mp rest
          obtain ⟨⟨a, aIs⟩, b, bIs⟩ :=
            defined_of_rewrites (operation_rewrites operates) ⟨value, yields⟩
          obtain ⟨forcedLeft, a', leftIs', aIs', leftWidens⟩ :=
            leftIH leftWholes leftConforms leftIs aIs
          obtain ⟨forcedRight, b', rightIs', bIs', rightWidens⟩ :=
            rightIH rightWholes rightConforms rightIs bIs
          obtain ⟨result', value', operates', yields', resultWidens⟩ :=
            Widens.operation noQuotient unforced forced leftWidens aIs aIs' rightWidens bIs bIs'
              operates yields
          refine ⟨result', value', bind_eq_ok.mpr ⟨forcedLeft, leftIs', ?_⟩, yields', resultWidens⟩
          exact bind_eq_ok.mpr ⟨forcedRight, rightIs', operates'⟩
  | parameter _ | call _ _ _ _ _ | aggregate _ _ _ _ => exact onWholes.elim

end Expr

/-- Whether a value is equal to an integer. -/
def Value.Counts (number : Int) : Value → Prop
  | integer held => held.toInt = number
  | bigint held => held.toInt = number
  | decimal held => held.signed = number * 10 ^ held.scale
  | _ => False

theorem Value.counts_of_isWhole {value : Value} {number : Int} (whole : value.type.isWhole = true)
    (counts : value.toWhole? = some number) : value.Counts number := by
  cases value with
  | integer held => exact Option.some.inj counts
  | bigint held => exact Option.some.inj counts
  | _ => cases whole

/-- An expression on whole numbers that has a value on a conforming row has the same value where
arithmetic is forced to be decimal: the same number, or `NULL` again. -/
theorem evaluate_forceDecimal {mode : Mode} {row parameters : List Value} {expr resolved : Expr}
    {value : Value} (onWholes : expr.OnWholes) (conforms : expr.Conforms row)
    (resolves : expr.resolve { mode with forceDecimal := false } = .ok resolved)
    (evaluates : resolved.evaluate ⟨{ mode with forceDecimal := false }, row, parameters⟩ =
      .ok value) :
    ∃ forced other, expr.resolve { mode with forceDecimal := true } = .ok forced ∧
      forced.evaluate ⟨{ mode with forceDecimal := true }, row, parameters⟩ = .ok other ∧
      ((∃ number, value.Counts number ∧ other.Counts number) ∨ value = .null ∧ other = .null) := by
  let context : Context := ⟨{ mode with forceDecimal := false }, row, parameters⟩
  let forcing : Context := ⟨{ mode with forceDecimal := true }, row, parameters⟩
  have unforced : context.mode.forceDecimal = false := rfl
  have forced : forcing.mode.forceDecimal = true := rfl
  have sameRow : forcing.row = context.row := rfl
  obtain ⟨resolved', value', resolves', evaluates', widens⟩ :=
    Expr.widens_of_onWholes unforced forced sameRow onWholes conforms resolves evaluates
  refine ⟨resolved', value', resolves', evaluates', ?_⟩
  have holds := widens.holds
  rcases widens.place with rfl | widens
  · rcases holds with rfl | whole
    · exact .inr ⟨rfl, rfl⟩
    · obtain ⟨number, counts⟩ := Value.exists_of_isWhole whole
      have same := Value.counts_of_isWhole whole counts
      exact .inl ⟨number, same, same⟩
  · cases widens with
    | null => exact .inr ⟨rfl, rfl⟩
    | @decimal _ wide number whole counts same =>
        refine .inl ⟨number, Value.counts_of_isWhole whole counts, ?_⟩
        change wide.signed = number * 10 ^ wide.scale
        rw [same.scale, same.signed, Int.pow_zero, Int.mul_one]

/-- A remainder of zero that is negated is a zero with a minus sign among decimal numbers, and
counts as zero all the same. -/
theorem evaluate_forceDecimal_of_negated_rest :
    let rest := Expr.arith .modulus (.column ⟨none, "A", some ⟨"T", ⟨0, .integer⟩, 0⟩, true⟩)
      (.int (-5))
    let expr := Expr.arith .plus (.negated rest)
      (.arith .multiply (.column ⟨none, "B", some ⟨"T", ⟨1, .bigint⟩, 0⟩, true⟩) (.int (-3)))
    let row : List Value := [.integer (-15), .bigint 4]
    expr.OnWholes ∧ expr.Conforms row ∧
      ∃ forced other, expr.resolve { Mode.regular with forceDecimal := true } = .ok forced ∧
        forced.evaluate ⟨{ Mode.regular with forceDecimal := true }, row, []⟩ = .ok other ∧
        ((∃ number, (Value.bigint (-12)).Counts number ∧ other.Counts number) ∨
          Value.bigint (-12) = .null ∧ other = .null) := by
  intro rest expr row
  have onWholes : expr.OnWholes :=
    ⟨⟨nofun, rfl⟩, ⟨⟨nofun, rfl⟩, rfl, .inr rfl⟩, ⟨nofun, rfl⟩, rfl, .inr rfl⟩
  have constant (number : Int32) : (Expr.int number).Conforms row :=
    fun _ isMember => absurd isMember (Multiset.notMem_zero _)
  have first : (Expr.column ⟨none, "A", some ⟨"T", ⟨0, .integer⟩, 0⟩, true⟩).Conforms row :=
    Expr.conforms_column.mpr (by rintro value ⟨⟩; exact .inr rfl)
  have second : (Expr.column ⟨none, "B", some ⟨"T", ⟨1, .bigint⟩, 0⟩, true⟩).Conforms row :=
    Expr.conforms_column.mpr (by rintro value ⟨⟩; exact .inr rfl)
  have restConforms : rest.Conforms row := Expr.conforms_binary.mpr ⟨first, constant _⟩
  have conforms : expr.Conforms row :=
    Expr.conforms_binary.mpr ⟨restConforms, Expr.conforms_binary.mpr ⟨second, constant _⟩⟩
  exact ⟨onWholes, conforms, evaluate_forceDecimal onWholes conforms rfl rfl⟩

end SqlScalar
