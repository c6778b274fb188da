import SqlScalar.Proofs.NullOperands

/-! # Arithmetic on strings

Under a mode in which a sum may be a concatenation, resolution reads arithmetic as one in two
cases. Of two untyped operands only a sum is a concatenation; of operands that are promoted to
strings a difference, a product, a quotient and a remainder are concatenations as well. In all
other cases the operator stays, and resolution brings in no concatenation.
-/

namespace SqlScalar

open Calendar

namespace Expr

/-- The number of concatenations in an expression. -/
def concatenations : Expr → Nat
  | literal _ | column _ | parameter _ => 0
  | negate operand _ => operand.concatenations
  | binary .concat left right _ _ => left.concatenations + right.concatenations + 1
  | binary (.arith _) left right _ _ => left.concatenations + right.concatenations
  | call _ unit first second _ =>
      unit.concatenations + first.concatenations + second.concatenations
  | aggregate _ argument _ _ => argument.concatenations

end Expr

theorem DataType.isTemporal_of_isTextual {type : DataType} (textual : type.isTextual = true) :
    type.isTemporal = false := by
  cases type <;> first | rfl | cases textual

namespace Resolution

/-- Whether arithmetic on operands of two types is a concatenation: a sum of untyped operands, or
any arithmetic on two operands that are promoted to a string. -/
def Joins (mode : Mode) (op : ArithOp) (left right : DataType) : Prop :=
  mode.plusConcatenates = true ∧
    (op = .plus ∧ left = right ∧ left.isUntyped = true ∨
      (left.isTextual = true ∧ right.isTextual = true) ∧ (left = .varchar ∨ right = .varchar))

instance (mode : Mode) (op : ArithOp) (left right : DataType) :
    Decidable (Joins mode op left right) :=
  inferInstanceAs (Decidable (_ ∧ _))

/-- What arithmetic with a temporal operand becomes: an operation with its operator, or a call
of a date function. -/
inductive Operates (op : ArithOp) (left right : Expr) : Expr → Prop
  | inOrder {type converts} :
      Operates op left right (.binary (.arith op) left right (some type) converts)
  | swapped {type converts} :
      Operates op left right (.binary (.arith op) right left (some type) converts)
  | calls {function unit first second result}
      (calls : call function (.literal unit) first second = .ok result) :
      Operates op left right result

variable {mode : Mode} {op : ArithOp} {left right result : Expr} {converts : Bool}
  {type : DataType}

section Plan

variable {leftType rightType : DataType}

/-- Types have strings in common just if one is that of strings and neither is preferred to it. -/
theorem promote_eq_varchar : DataType.promote leftType rightType = .ok .varchar ↔
    (leftType.isTextual = true ∧ rightType.isTextual = true) ∧
      (leftType = .varchar ∨ rightType = .varchar) := by
  constructor
  · intro promotes
    refine ⟨DataType.textual_of_promote promotes, ?_⟩
    unfold DataType.promote DataType.preferred at promotes
    split at promotes
    · cases promotes
    · injection promotes with preferredIs
      split at preferredIs
      · exact .inl preferredIs
      · exact .inr preferredIs
  · rintro ⟨⟨leftTextual, rightTextual⟩, rfl | rfl⟩
    · cases rightType <;> first | rfl | cases rightTextual
    · cases leftType <;> first | rfl | cases leftTextual

/-- Arithmetic is planned as a concatenation just if the types of its operands make it one. -/
theorem plan_eq_concat : plan mode (.arith op) leftType rightType = .ok (.concat, type) ↔
    Joins mode op leftType rightType ∧ type = .varchar := by
  constructor
  · intro planned
    refine ⟨?_, (plan_typed planned).2 rfl⟩
    simp only [plan] at planned
    split at planned
    · rename_i untyped
      split at planned
      · rename_i adds
        exact ⟨adds.2, .inl ⟨adds.1, untyped⟩⟩
      · cases planned
    · obtain ⟨common, promotes, planned⟩ := bind_eq_ok.mp planned
      split at planned
      · rename_i concatenates
        obtain ⟨string, adds⟩ := Bool.and_eq_true_iff.mp concatenates
        rw [DataType.eq_varchar_of_isString string] at promotes
        exact ⟨adds, .inr (promote_eq_varchar.mp promotes)⟩
      · cases planned
  · rintro ⟨⟨adds, untyped | textual⟩, rfl⟩
    · obtain ⟨rfl, rfl, untyped⟩ := untyped
      simp only [plan, untyped, adds, and_self, ↓reduceIte]
    · have typed : ¬ (leftType = rightType ∧ leftType.isUntyped = true) := by
        rintro ⟨rfl, untyped⟩
        obtain rfl := or_self_iff.mp textual.2
        cases untyped
      simp only [plan, typed, ↓reduceIte, promote_eq_varchar.mpr textual, adds]
      rfl

/-- Arithmetic that is not made a concatenation keeps its operator. -/
theorem eq_arith_of_not_joins {settled : BinaryOp} (apart : ¬ Joins mode op leftType rightType)
    (planned : plan mode (.arith op) leftType rightType = .ok (settled, type)) :
    settled = .arith op := by
  cases settled with
  | concat => exact absurd (plan_eq_concat.mp planned).1 apart
  | arith kept =>
      cases eq_arith_of_plan planned
      rfl

/-- No concatenation has a temporal operand. -/
theorem Joins.plain (joins : Joins mode op leftType rightType) :
    Plain (.arith op) leftType rightType := by
  refine .inr ?_
  rcases joins.2 with ⟨_, rfl, untyped⟩ | ⟨⟨leftTextual, rightTextual⟩, _⟩
  · have plain := DataType.isTemporal_eq_false_of_isUntyped untyped
    exact ⟨plain, plain⟩
  · exact ⟨DataType.isTemporal_of_isTextual leftTextual,
      DataType.isTemporal_of_isTextual rightTextual⟩

end Plan

section Concatenations

/-- Folding brings in no concatenation. -/
theorem concatenations_le_of_fold {settled : BinaryOp}
    (folds : fold mode settled left right type converts = .ok result) :
    result.concatenations ≤
      (Expr.binary settled left right (some type) converts).concatenations := by
  rcases fold_eq_ok folds with ⟨_, _, _, _, _, _, rfl⟩ | ⟨_, rfl⟩
  · exact Nat.zero_le _
  · exact Nat.le_refl _

theorem concatenations_le_of_negation {operand : Expr} (resolves : negation operand = .ok result) :
    result.concatenations ≤ operand.concatenations := by
  rcases negation_eq_ok resolves with ⟨_, _, _, _, rfl⟩ | ⟨_, rfl⟩
  · exact Nat.zero_le _
  · exact Nat.le_refl _

/-- A call brings in no concatenation. -/
theorem concatenations_le_of_call {function : DateFunction} {unit first second : Expr}
    (resolves : call function unit first second = .ok result) :
    result.concatenations ≤
      unit.concatenations + first.concatenations + second.concatenations := by
  obtain ⟨_, _, ⟨_, _, _, _, _, _, _, _, rfl⟩ | ⟨_, rfl⟩⟩ := call_eq_ok resolves
  · exact Nat.zero_le _
  · exact Nat.le_refl _

/-- A call with a constant unit has the concatenations of its other arguments at most. -/
theorem concatenations_le_of_unit_call {function : DateFunction} {unit : Value}
    {first second : Expr} (calls : call function (.literal unit) first second = .ok result) :
    result.concatenations ≤ first.concatenations + second.concatenations := by
  have counted := concatenations_le_of_call calls
  rwa [Expr.concatenations, Nat.zero_add] at counted

/-- A number is no string, so days are scaled to seconds by a product in every mode. -/
theorem concatenations_le_of_daySeconds {days seconds : Expr}
    (fraction : days.type.isFractional = true)
    (scaled : numeric mode .multiply .daySeconds days true = .ok seconds) :
    seconds.concatenations ≤ days.concatenations := by
  obtain ⟨settled, type, planned, ⟨_, _, _, _, rfl⟩ | ⟨_, rfl⟩⟩ := daySeconds_eq_ok fraction scaled
  · exact Nat.zero_le _
  · have apart : ¬ Joins mode .multiply .integer days.type := by
      rintro ⟨_, ⟨isSum, _⟩ | ⟨⟨integerTextual, _⟩, _⟩⟩
      · cases isSum
      · cases integerTextual
    cases eq_arith_of_not_joins apart planned
    exact Nat.le_of_eq (Nat.zero_add _)

end Concatenations

/-- What arithmetic becomes does not depend on the order in which its operands were given. -/
theorem Operates.symm (operates : Operates op left right result) :
    Operates op right left result := by
  cases operates with
  | inOrder => exact .swapped
  | swapped => exact .inOrder
  | calls calls => exact .calls calls

/-- Arithmetic on a temporal operand keeps its operator or becomes a call. -/
theorem operates_of_temporal {written : BinaryOp} (isArith : written = .arith op)
    (isTemporal : left.type.isTemporal = true ∨ right.type.isTemporal = true)
    (rewrites : Rewrites mode written left right converts result) :
    Operates op left right result ∧
      result.concatenations ≤ left.concatenations + right.concatenations := by
  induction rewrites with
  | folds plain _ _ | settles plain _ _ =>
      subst isArith
      exact absurd plain (not_plain isTemporal)
  | keeps _ | scales _ _ =>
      cases isArith
      exact ⟨.inOrder, Nat.le_refl _⟩
  | swaps _ _ ih =>
      obtain ⟨operates, counted⟩ := ih isArith isTemporal.symm
      exact ⟨operates.symm, by omega⟩
  | addsDays _ _ calls => exact ⟨.calls calls, concatenations_le_of_unit_call calls⟩
  | addsSeconds fraction _ scaled calls =>
      have secondsCounted := concatenations_le_of_daySeconds fraction scaled
      have counted := concatenations_le_of_unit_call calls
      exact ⟨.calls calls, by omega⟩
  | subtractsDays _ _ negated calls =>
      have daysCounted := concatenations_le_of_negation negated
      have counted := concatenations_le_of_unit_call calls
      exact ⟨.calls calls, by omega⟩
  | subtractsSeconds _ fraction scales negated calls =>
      have scaledCounted := concatenations_le_of_daySeconds fraction scales
      have secondsCounted := concatenations_le_of_negation negated
      have counted := concatenations_le_of_unit_call calls
      exact ⟨.calls calls, by omega⟩
  | countsDays _ _ calls =>
      have counted := concatenations_le_of_unit_call calls
      exact ⟨.calls calls, by omega⟩

/-- Arithmetic on operands whose types make it a concatenation is resolved like one. -/
theorem operation_of_joins (joins : Joins mode op left.type right.type) :
    operation mode (.arith op) left right converts =
      operation mode .concat left right converts := by
  rw [operation_of_plain joins.plain, plan_eq_concat.mpr ⟨joins, rfl⟩]
  rfl

/-- Arithmetic on operands whose types do not make it a concatenation keeps its operator, unless
it becomes a call. -/
theorem operates_of_not_joins (apart : ¬ Joins mode op left.type right.type)
    (resolves : operation mode (.arith op) left right converts = .ok result) :
    ((∃ type, fold mode (.arith op) left right type converts = .ok result) ∨
      Operates op left right result) ∧
      result.concatenations ≤ left.concatenations + right.concatenations := by
  rcases plain_or_temporal (.arith op) left.type right.type with plain | ⟨_, _, isTemporal⟩
  · rw [operation_of_plain plain] at resolves
    obtain ⟨⟨settled, type⟩, planned, folds⟩ := bind_eq_ok.mp resolves
    cases eq_arith_of_not_joins apart planned
    exact ⟨.inl ⟨type, folds⟩, concatenations_le_of_fold folds⟩
  · obtain ⟨operates, counted⟩ := operates_of_temporal rfl isTemporal (operation_rewrites resolves)
    exact ⟨.inr operates, counted⟩

end Resolution

namespace Expr

open Resolution

variable {mode : Mode} {left right result : Expr}

/-- Resolving an expression brings in no concatenation under a mode in which no sum is one. -/
theorem concatenations_le_of_resolve (separate : mode.plusConcatenates = false) {expr : Expr}
    (resolves : expr.resolve mode = .ok result) : result.concatenations ≤ expr.concatenations := by
  have apart {op : ArithOp} {left right : DataType} : ¬ Joins mode op left right := by
    rintro ⟨adds, _⟩
    rw [separate] at adds
    cases adds
  induction expr generalizing result with
  | literal value | parameter index =>
      cases resolves
      exact Nat.le_refl _
  | column reference =>
      rw [resolve] at resolves
      split at resolves
      · cases resolves
        exact Nat.le_refl _
      · cases resolves
  | negate operand _ ih =>
      obtain ⟨operand', operandIs, resolves⟩ := bind_eq_ok.mp resolves
      exact (concatenations_le_of_negation resolves).trans (ih operandIs)
  | binary op left right _ converts ihLeft ihRight =>
      obtain ⟨left', leftIs, resolves⟩ := bind_eq_ok.mp resolves
      obtain ⟨right', rightIs, resolves⟩ := bind_eq_ok.mp resolves
      have leftCounted := ihLeft leftIs
      have rightCounted := ihRight rightIs
      cases op with
      | concat =>
          have counted := concatenations_le_of_fold resolves
          simp only [concatenations] at counted ⊢
          omega
      | arith op =>
          have counted := (operates_of_not_joins apart resolves).2
          simp only [concatenations]
          omega
  | call function unit first second _ ihUnit ihFirst ihSecond =>
      obtain ⟨unit', unitIs, resolves⟩ := bind_eq_ok.mp resolves
      obtain ⟨first', firstIs, resolves⟩ := bind_eq_ok.mp resolves
      obtain ⟨second', secondIs, resolves⟩ := bind_eq_ok.mp resolves
      have unitCounted := ihUnit unitIs
      have firstCounted := ihFirst firstIs
      have secondCounted := ihSecond secondIs
      have counted := concatenations_le_of_call resolves
      simp only [concatenations]
      omega
  | aggregate kind argument _ state ih =>
      obtain ⟨argument', argumentIs, resolves⟩ := bind_eq_ok.mp resolves
      obtain ⟨type, _, resolves⟩ := bind_eq_ok.mp resolves
      cases resolves
      have counted := ih argumentIs
      exact counted

/-- Arithmetic becomes a concatenation of its resolved operands just if their types make it one.
Otherwise it is folded or kept with the operator it is written with, or becomes a call, and
brings in no concatenation. -/
theorem arithmetic_joins_or_operates {op : ArithOp} {resolved : Option DataType}
    {converts : Bool}
    (resolves : (binary (.arith op) left right resolved converts).resolve mode = .ok result) :
    ∃ left' right', left.resolve mode = .ok left' ∧ right.resolve mode = .ok right' ∧
      (Joins mode op left'.type right'.type →
        fold mode .concat left' right' .varchar converts = .ok result) ∧
      (¬ Joins mode op left'.type right'.type →
        ((∃ type, fold mode (.arith op) left' right' type converts = .ok result) ∨
          Operates op left' right' result) ∧
        result.concatenations ≤ left'.concatenations + right'.concatenations) := by
  obtain ⟨left', leftIs, resolves⟩ := bind_eq_ok.mp resolves
  obtain ⟨right', rightIs, resolves⟩ := bind_eq_ok.mp resolves
  refine ⟨left', right', leftIs, rightIs, fun joins => ?_, fun apart => ?_⟩
  · rw [operation_of_joins joins] at resolves
    exact resolves
  · exact operates_of_not_joins apart resolves

/-- Where strings are concatenated by adding them, a difference of whole numbers is a difference
still. -/
theorem resolve_difference_of_integers :
    let mode := Mode.ofProduct .msSqlServer
    let number : ColumnRef := ⟨none, "N", some ⟨"T", ⟨0, .integer⟩, 0⟩, true⟩
    let difference := arith .minus (column number) (int 1)
    let resolved := binary (.arith .minus) (column number) (int 1) (some .integer) true
    difference.resolve mode = .ok resolved ∧
      ((∃ type, fold mode (.arith .minus) (column number) (int 1) type true = .ok resolved) ∨
        Operates .minus (column number) (int 1) resolved) ∧
      resolved.concatenations = 0 := by
  intro mode number difference resolved
  have resolves : difference.resolve mode = .ok resolved := rfl
  obtain ⟨left', right', leftIs, rightIs, _, stays⟩ := arithmetic_joins_or_operates resolves
  cases leftIs
  cases rightIs
  obtain ⟨operates, counted⟩ := stays (by decide)
  exact ⟨resolves, operates, Nat.le_zero.mp counted⟩

/-- Where strings are concatenated by adding them, subtracting one concatenates them too. -/
theorem concatenation_of_difference :
    let mode := Mode.ofProduct .msSqlServer
    let text : ColumnRef := ⟨none, "S", some ⟨"T", ⟨0, .varchar⟩, 0⟩, true⟩
    (arith .minus (column text) (string "!")).resolve mode =
        .ok (binary .concat (column text) (string "!") (some .varchar) true) ∧
      (arith .minus (string "a") (string "b")).resolve mode = .ok (string "ab") :=
  ⟨rfl, rfl⟩

end Expr

end SqlScalar
