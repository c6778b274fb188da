import SqlScalar.Expr.Resolution
import SqlScalar.Proofs.EvaluationTyping

/-! # Node rules

What the rules of resolution make of a negation, of a call and of an operation without a
temporal reading. Each rule looks at the types of resolved operands and at whether they are
constants. Such an operation is given an operator and a type by `Resolution.plan`, and is
folded if it can be.
-/

namespace SqlScalar

open Calendar

namespace DataType

variable {left right common : DataType}

theorem isTemporal_eq_false_of_isUntyped {type : DataType} (untyped : type.isUntyped = true) :
    type.isTemporal = false := by
  cases type <;> first | rfl | cases untyped

theorem isTemporal_eq_false_of_isFractional {type : DataType}
    (fraction : type.isFractional = true) : type.isTemporal = false := by
  cases type <;> first | rfl | cases fraction

/-- The common type of two operands says something unless neither of them does. -/
theorem isUntyped_promote (typed : ¬ (left = right ∧ left.isUntyped = true))
    (promotes : promote left right = .ok common) : common.isUntyped = false := by
  cases left <;> cases right <;> cases promotes <;>
    first | rfl | exact absurd ⟨rfl, rfl⟩ typed

/-- Types that are not temporal have no temporal type in common. -/
theorem isTemporal_promote (leftPlain : left.isTemporal = false)
    (rightPlain : right.isTemporal = false) (promotes : promote left right = .ok common) :
    common.isTemporal = false := by
  unfold promote preferred at promotes
  split at promotes
  · cases promotes
  · cases promotes
    split
    · exact leftPlain
    · exact rightPlain

theorem eq_varchar_of_isString {type : DataType} (string : type.isString = true) :
    type = .varchar := by
  cases type <;> first | rfl | cases string

end DataType

/-- Only constants count as such. -/
theorem Expr.eq_literal_of_isConstant {expr : Expr} (constant : expr.isConstant = true) :
    ∃ value, expr = .literal value := by
  cases expr with
  | literal value => exact ⟨value, rfl⟩
  | column _ | parameter _ | negate _ _ | binary _ _ _ _ _ | call _ _ _ _ _
  | aggregate _ _ _ _ => cases constant

namespace Resolution

/-- Whether both operands of an operation are constants. -/
def foldable (left right : Expr) : Bool :=
  left.isConstant && right.isConstant

theorem eq_literals_of_foldable {left right : Expr} (constant : foldable left right = true) :
    ∃ a b, left = .literal a ∧ right = .literal b := by
  obtain ⟨leftConstant, rightConstant⟩ := Bool.and_eq_true_iff.mp constant
  obtain ⟨a, leftIs⟩ := Expr.eq_literal_of_isConstant leftConstant
  obtain ⟨b, rightIs⟩ := Expr.eq_literal_of_isConstant rightConstant
  exact ⟨a, b, leftIs, rightIs⟩

/-- Whether the types of the operands leave an operation without a temporal reading. -/
def Plain (op : BinaryOp) (left right : DataType) : Prop :=
  op = .concat ∨ left.isTemporal = false ∧ right.isTemporal = false

/-- The operator and the type that the types of its operands give an operation without a
temporal reading. -/
def plan (mode : Mode) (op : BinaryOp) (left right : DataType) : Outcome (BinaryOp × DataType) :=
  match op with
  | .concat => .ok (.concat, .varchar)
  | .arith op =>
      if left = right ∧ left.isUntyped then
        if op = .plus ∧ mode.plusConcatenates then .ok (.concat, .varchar)
        else .ok (.arith op, .decimal)
      else do
        let common ← DataType.promote left right
        if common.isString && mode.plusConcatenates then .ok (.concat, common)
        else .ok (.arith op, arithmeticType mode common)

variable {mode : Mode} {op settled : BinaryOp} {left right result : Expr} {converts : Bool}
  {type : DataType}

section Plan

variable {leftType rightType : DataType}

/-- Arithmetic on a type that says something about its values is done in one that does. -/
theorem isUntyped_arithmeticType {common : DataType} (typed : common.isUntyped = false) :
    (arithmeticType mode common).isUntyped = false := by
  unfold arithmeticType
  split
  · rfl
  · exact typed

/-- A planned operation has a type, and a planned concatenation is one of strings. -/
theorem plan_typed (planned : plan mode op leftType rightType = .ok (settled, type)) :
    type.isUntyped = false ∧ (settled = .concat → type = .varchar) := by
  cases op with
  | concat => cases planned; exact ⟨rfl, fun _ => rfl⟩
  | arith op =>
      simp only [plan] at planned
      split at planned
      · split at planned
        · cases planned; exact ⟨rfl, fun _ => rfl⟩
        · cases planned; exact ⟨rfl, nofun⟩
      · rename_i typed
        obtain ⟨common, promotes, planned⟩ := bind_eq_ok.mp planned
        have commonTyped := DataType.isUntyped_promote typed promotes
        split at planned
        · rename_i concatenates
          cases planned
          have string := (Bool.and_eq_true_iff.mp concatenates).1
          exact ⟨commonTyped, fun _ => DataType.eq_varchar_of_isString string⟩
        · cases planned
          exact ⟨isUntyped_arithmeticType commonTyped, nofun⟩

/-- Arithmetic that stays arithmetic keeps its operator. -/
theorem eq_arith_of_plan {kept : ArithOp}
    (planned : plan mode op leftType rightType = .ok (.arith kept, type)) : op = .arith kept := by
  cases op with
  | concat => cases planned
  | arith op =>
      simp only [plan] at planned
      split at planned
      · split at planned <;> cases planned
        rfl
      · obtain ⟨common, _, planned⟩ := bind_eq_ok.mp planned
        split at planned <;> cases planned
        rfl

/-- Only temporal operands make an operation temporal. -/
theorem isTemporal_of_plan (plain : Plain op leftType rightType)
    (planned : plan mode op leftType rightType = .ok (settled, type)) :
    type.isTemporal = false := by
  cases op with
  | concat => cases planned; rfl
  | arith op =>
      obtain ⟨leftPlain, rightPlain⟩ := plain.resolve_left nofun
      simp only [plan] at planned
      split at planned
      · split at planned <;> cases planned <;> rfl
      · obtain ⟨common, promotes, planned⟩ := bind_eq_ok.mp planned
        have commonPlain := DataType.isTemporal_promote leftPlain rightPlain promotes
        split at planned
        · cases planned
          exact commonPlain
        · cases planned
          unfold arithmeticType
          split
          · rfl
          · exact commonPlain

/-- An operation that has been planned is planned as it is. -/
theorem plan_plan (planned : plan mode op leftType rightType = .ok (settled, type)) :
    plan mode settled leftType rightType = .ok (settled, type) := by
  cases settled with
  | concat => rw [(plan_typed planned).2 rfl]; rfl
  | arith kept =>
      have unchanged := eq_arith_of_plan planned
      subst unchanged
      exact planned

/-- An operation that has been planned has no temporal reading either. -/
theorem Plain.of_plan (plain : Plain op leftType rightType)
    (planned : plan mode op leftType rightType = .ok (settled, type)) :
    Plain settled leftType rightType := by
  cases settled with
  | concat => exact .inl rfl
  | arith kept =>
      have unchanged := eq_arith_of_plan planned
      subst unchanged
      exact plain

end Plan

/-- A fold ends in a constant if both operands are constants, and keeps the operation
otherwise. -/
theorem fold_eq_ok (folds : fold mode op left right type converts = .ok result) :
    (∃ a b value, left = .literal a ∧ right = .literal b ∧
      op.evaluate mode type converts (.ok a) (.ok b) = .ok value ∧ result = .literal value) ∨
    foldable left right = false ∧ result = .binary op left right (some type) converts := by
  unfold fold at folds
  split at folds
  · obtain ⟨value, evaluates, folds⟩ := bind_eq_ok.mp folds
    cases folds
    exact .inl ⟨_, _, value, rfl, rfl, evaluates, rfl⟩
  · rename_i outside
    cases folds
    refine .inr ⟨?_, rfl⟩
    cases left <;> cases right <;> first | rfl | exact (outside _ _ rfl rfl).elim

theorem fold_of_not_foldable (varying : foldable left right = false) :
    fold mode op left right type converts = .ok (.binary op left right (some type) converts) := by
  cases left <;> cases right <;> first | rfl | cases varying

section Negation

variable {operand : Expr}

/-- A negation ends in a constant if the operand is one, and stays a negation otherwise. -/
theorem negation_eq_ok (resolves : negation operand = .ok result) :
    (∃ a value, operand = .literal a ∧
      evaluateNegation (negationType a.type) (.ok a) = .ok value ∧ result = .literal value) ∨
    operand.isConstant = false ∧
      result = .negate operand (some (negationType operand.type)) := by
  unfold negation at resolves
  simp only at resolves
  split at resolves
  · obtain ⟨value, evaluates, resolves⟩ := bind_eq_ok.mp resolves
    cases resolves
    exact .inl ⟨_, value, rfl, evaluates, rfl⟩
  · rename_i outside
    cases resolves
    refine .inr ⟨?_, rfl⟩
    cases operand <;> first | rfl | exact (outside _ rfl).elim

theorem negation_of_varying (varying : operand.isConstant = false) :
    negation operand = .ok (.negate operand (some (negationType operand.type))) := by
  cases operand <;> first | rfl | cases varying

theorem isConstant_of_negation (varying : operand.isConstant = false)
    (resolves : negation operand = .ok result) : result.isConstant = false := by
  rw [negation_of_varying varying] at resolves
  cases resolves
  rfl

theorem negationType_ne_unknown (type : DataType) : negationType type ≠ .unknown := by
  cases type <;> nofun

end Negation

section Call

variable {function : DateFunction} {unit first second : Expr}

/-- Whether all arguments of a call are constants. -/
def closed (unit first second : Expr) : Bool :=
  unit.isConstant && first.isConstant && second.isConstant

/-- A call ends in a constant if all arguments are constants, and stays a call otherwise. In
either case its unit is no constant or a valid one. -/
theorem call_eq_ok (resolves : call function unit first second = .ok result) :
    ∃ known, constantUnit unit = .ok known ∧
      ((∃ a b c value, unit = .literal a ∧ first = .literal b ∧ second = .literal c ∧
        function.evaluate (callType function known second.type) (.ok a) (.ok b) (.ok c) =
          .ok value ∧ result = .literal value) ∨
      closed unit first second = false ∧ result =
        .call function unit first second (some (callType function known second.type))) := by
  unfold call at resolves
  obtain ⟨known, knownIs, resolves⟩ := bind_eq_ok.mp resolves
  refine ⟨known, knownIs, ?_⟩
  simp only at resolves
  split at resolves
  · obtain ⟨value, evaluates, resolves⟩ := bind_eq_ok.mp resolves
    cases resolves
    exact .inl ⟨_, _, _, value, rfl, rfl, rfl, evaluates, rfl⟩
  · rename_i outside
    cases resolves
    refine .inr ⟨?_, rfl⟩
    rcases Bool.eq_false_or_eq_true (closed unit first second) with isClosed | varying
    · simp only [closed, Bool.and_eq_true] at isClosed
      obtain ⟨a, rfl⟩ := Expr.eq_literal_of_isConstant isClosed.1.1
      obtain ⟨b, rfl⟩ := Expr.eq_literal_of_isConstant isClosed.1.2
      obtain ⟨c, rfl⟩ := Expr.eq_literal_of_isConstant isClosed.2
      exact (outside a b c rfl rfl rfl).elim
    · exact varying

/-- A call with an argument that is no constant is kept, with the type it gets from its unit. -/
theorem call_of_not_closed {known : Option TimeUnit} (knownIs : constantUnit unit = .ok known)
    (varying : closed unit first second = false) :
    call function unit first second =
      .ok (.call function unit first second (some (callType function known second.type))) := by
  simp only [call, knownIs, bind, Except.bind]
  split
  · cases varying
  · rfl

/-- A call becomes a constant only if all its arguments are constants. -/
theorem isConstant_of_open_call (varying : closed unit first second = false)
    (resolves : call function unit first second = .ok result) : result.isConstant = false := by
  obtain ⟨known, _, ⟨_, _, _, _, rfl, rfl, rfl, _⟩ | ⟨_, rfl⟩⟩ := call_eq_ok resolves
  · cases varying
  · rfl

/-- A call with a constant unit becomes a constant only if the other arguments are constants. -/
theorem isConstant_of_call {named : Value} (varying : foldable first second = false)
    (resolves : call function (.literal named) first second = .ok result) :
    result.isConstant = false := by
  refine isConstant_of_open_call ?_ resolves
  exact varying

/-- Only a time of day that is moved makes a call one. -/
theorem eq_time_of_callType {known : Option TimeUnit} {moved : DataType}
    (isTime : callType function known moved = .time) : function = .dateAdd ∧ moved = .time := by
  unfold callType at isTime
  split at isTime
  · cases isTime
  · split at isTime
    · exact ⟨rfl, rfl⟩
    · split at isTime <;> cases isTime
    · cases isTime

/-- A call gets a type that a call of its function can have. -/
theorem admits_callType (function : DateFunction) (known : Option TimeUnit) (moved : DataType) :
    function.Admits (callType function known moved) := by
  cases function with
  | dateDiff => rfl
  | dateAdd =>
      change (callType .dateAdd known moved).isUntyped = false
      unfold callType
      simp only
      split
      · rfl
      · split <;> rfl
      · rfl

end Call

end Resolution

end SqlScalar
