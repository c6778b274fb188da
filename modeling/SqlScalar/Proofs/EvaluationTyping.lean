import SqlScalar.Expr.Evaluation
import SqlScalar.Proofs.ValueTyping

/-! # Types of evaluated operations

Operations, negations and calls are evaluated in steps: operands are converted, and what
they are converted to is combined. Such an evaluation succeeds only if every operand does,
and it ends in a value of the type of the node or in `NULL`. Without `NULL` among the
operands it does not end in `NULL`.
-/

namespace SqlScalar

open Calendar

/-- Only references that are bound have values. -/
theorem ColumnRef.isSome_of_evaluate {reference : ColumnRef} {row : List Value} {value : Value}
    (evaluates : reference.evaluate row = .ok value) : reference.binding.isSome = true := by
  unfold ColumnRef.evaluate at evaluates
  split at evaluates
  · cases evaluates
  · rename_i bound
    rw [bound]
    rfl

variable {mode : Mode} {type : DataType}

namespace BinaryOp

variable {op : BinaryOp} {converts : Bool} {left right : Outcome Value} {result : Value}

/-- Two values combine to `NULL` or to a value of the type of the left one. Concatenation is
only defined on strings and `NULL`. -/
theorem combine_type {left right : Value} (leftType : left = .null ∨ left.type = type)
    (concatenable : op = .concat →
      type = .varchar ∧ (right = .null ∨ right.type = .varchar))
    (combines : op.combine mode left right = .ok result) :
    result = .null ∨ result.type = type := by
  cases op with
  | concat =>
      obtain ⟨rfl, rightType⟩ := concatenable rfl
      simp only [combine, concatenate, Except.ok.injEq] at combines
      subst combines
      split
      · split
        · exact .inl rfl
        · exact rightType
      · split
        · split
          · exact .inl rfl
          · exact leftType
        · exact .inr rfl
  | arith op =>
      simp only [combine] at combines
      split at combines
      · cases combines; exact .inl rfl
      · rename_i present
        rcases leftType with rfl | leftType
        · exact absurd rfl present
        · exact .inr ((Value.arith_type combines).trans leftType)

/-- Values of one type other than `NULL` are combined to a value of that type. -/
theorem combine_type_of_present {left right : Value} (leftType : left.type = type)
    (leftPresent : left.isNull = false) (rightPresent : right.isNull = false)
    (concatenable : op = .concat → type = .varchar)
    (combines : op.combine mode left right = .ok result) : result.type = type := by
  cases op with
  | concat =>
      simp only [combine, concatenate, leftPresent, rightPresent, Bool.false_eq_true, ↓reduceIte,
        Except.ok.injEq] at combines
      subst combines
      exact (concatenable rfl).symm
  | arith op =>
      simp only [combine, leftPresent, rightPresent, Bool.or_self, Bool.false_eq_true,
        ↓reduceIte] at combines
      exact (Value.arith_type combines).trans leftType

/-- Values are combined without a failure that was to be found earlier. -/
theorem settled_combine (left right : Value) : Settled (op.combine mode left right) := by
  cases op with
  | concat => exact Spares.ok _
  | arith op =>
      simp only [combine]
      split
      · exact Spares.ok _
      · exact Value.settled_arith op left right

/-- An operation has a value just if its operands have, both convert as they have to, and the
results combine. -/
theorem evaluate_eq_ok :
    op.evaluate mode type converts left right = .ok result ↔
      ∃ a a' b b', left = .ok a ∧ a.convertTo type = .ok a' ∧ right = .ok b ∧
        convertRight converts type b = .ok b' ∧
        op.combine mode a' b' = .ok result := by
  simp only [evaluate, bind_eq_ok]
  constructor
  · rintro ⟨a, leftIs, a', leftConverts, b, rightIs, b', rightConverts, combines⟩
    exact ⟨a, a', b, b', leftIs, leftConverts, rightIs, rightConverts, combines⟩
  · rintro ⟨a, a', b, b', leftIs, leftConverts, rightIs, rightConverts, combines⟩
    exact ⟨a, leftIs, a', leftConverts, b, rightIs, b', rightConverts, combines⟩

/-- An operation ends in a value of its type or in `NULL`. A concatenation must be one of
strings, both of its operands being converted. -/
theorem evaluate_type (typed : type ≠ .unknown)
    (concatenable : op = .concat → type = .varchar ∧ converts = true)
    (evaluates : op.evaluate mode type converts left right = .ok result) :
    result = .null ∨ result.type = type := by
  obtain ⟨a, a', b, b', _, leftConverts, _, rightConverts, combines⟩ :=
    evaluate_eq_ok.mp evaluates
  refine combine_type (Value.convertTo_type typed leftConverts) ?_ combines
  intro isConcat
  obtain ⟨rfl, rfl⟩ := concatenable isConcat
  exact ⟨rfl, Value.convertTo_type typed rightConverts⟩

/-- An operation on operands other than `NULL` ends in a value of its type. -/
theorem evaluate_type_of_present {a b : Value} (leftIs : left = .ok a) (rightIs : right = .ok b)
    (leftPresent : a.isNull = false) (rightPresent : b.isNull = false)
    (typed : type.isUntyped = false) (concatenable : op = .concat → type = .varchar)
    (evaluates : op.evaluate mode type converts left right = .ok result) :
    result.type = type := by
  subst leftIs rightIs
  obtain ⟨_, a', _, b', leftIs, leftConverts, rightIs, rightConverts, combines⟩ :=
    evaluate_eq_ok.mp evaluates
  cases leftIs
  cases rightIs
  have leftType := Value.convertTo_type_of_present leftPresent typed leftConverts
  have leftTyped : a'.isNull = false :=
    Value.isNull_eq_false_of_typed (by rw [leftType]; exact typed)
  have rightTyped : b'.isNull = false := by
    cases converts with
    | false => cases rightConverts; exact rightPresent
    | true =>
        have rightType := Value.convertTo_type_of_present rightPresent typed rightConverts
        exact Value.isNull_eq_false_of_typed (by rw [rightType]; exact typed)
  exact combine_type_of_present leftType leftTyped rightTyped concatenable combines

/-- Converting the right operand brings in no failure that was to be found earlier. -/
theorem settled_convertRight (converts : Bool) (right : Value) :
    Settled (convertRight converts type right) := by
  unfold convertRight
  split
  · exact Value.settled_convertTo right type
  · exact Spares.ok right

theorem settled_evaluate (settledLeft : Settled left) (settledRight : Settled right) :
    Settled (op.evaluate mode type converts left right) :=
  settledLeft.bind fun a _ => (Value.settled_convertTo a type).bind fun a' _ =>
    settledRight.bind fun b _ => (settled_convertRight converts b).bind fun b' _ =>
      settled_combine a' b'

end BinaryOp

section Negation

variable {operand : Outcome Value} {result : Value}

/-- A negation has a value just if its operand has one that converts and has an opposite. -/
theorem evaluateNegation_eq_ok :
    evaluateNegation type operand = .ok result ↔
      ∃ a a', operand = .ok a ∧ a.convertTo type = .ok a' ∧ a'.negate = .ok result := by
  simp only [evaluateNegation, bind_eq_ok]
  constructor
  · rintro ⟨a, operandIs, a', converts, negates⟩
    exact ⟨a, a', operandIs, converts, negates⟩
  · rintro ⟨a, a', operandIs, converts, negates⟩
    exact ⟨a, operandIs, a', converts, negates⟩

/-- The value of a negation is `NULL` or of its type. -/
theorem evaluateNegation_type (typed : type ≠ .unknown)
    (evaluates : evaluateNegation type operand = .ok result) :
    result = .null ∨ result.type = type := by
  obtain ⟨a, a', _, converts, negates⟩ := evaluateNegation_eq_ok.mp evaluates
  rcases Value.convertTo_type typed converts with rfl | operandType
  · cases negates; exact .inl rfl
  · exact .inr ((Value.negate_type negates).trans operandType)

/-- The negation of a value other than `NULL` is of its type. -/
theorem evaluateNegation_type_of_present {a : Value} (operandIs : operand = .ok a)
    (present : a.isNull = false) (typed : type.isUntyped = false)
    (evaluates : evaluateNegation type operand = .ok result) : result.type = type := by
  subst operandIs
  obtain ⟨_, a', operandIs, converts, negates⟩ := evaluateNegation_eq_ok.mp evaluates
  cases operandIs
  exact (Value.negate_type negates).trans
    (Value.convertTo_type_of_present present typed converts)

theorem settled_evaluateNegation (settled : Settled operand) :
    Settled (evaluateNegation type operand) :=
  settled.bind fun a _ => (Value.settled_convertTo a type).bind fun a' _ =>
    Value.settled_negate a'

end Negation

theorem settled_parse (text : String) : Settled (TimeUnit.parse text) := by
  unfold TimeUnit.parse
  simp only
  split
  · exact Spares.ok _
  · exact Spares.error rfl

namespace DateFunction

variable {function : DateFunction} {unit first second : Outcome Value} {result : Value}

/-- The type a call of a date function must have: differences are counted in `BIGINT`. -/
def Admits (function : DateFunction) (type : DataType) : Prop :=
  match function with
  | dateAdd => type.isUntyped = false
  | dateDiff => type = .bigint

/-- The type of a call says something about its values. -/
theorem Admits.typed (admits : function.Admits type) : type.isUntyped = false := by
  cases function with
  | dateAdd => exact admits
  | dateDiff =>
      change type = .bigint at admits
      rw [admits]
      rfl

/-- An instant that has been moved is of the type wanted. -/
theorem addUnits_type {unit : TimeUnit} {count : Int64} {instant : Timestamp}
    (typed : type.isUntyped = false) (moves : addUnits type unit count instant = .ok result) :
    result.type = type := by
  unfold addUnits at moves
  split at moves
  · exact Value.convertTo_type_of_present rfl typed moves
  · cases moves

/-- The result of a function is `NULL` or of the type of the call. -/
theorem combine_type {unit : TimeUnit} {first second : Value} (admits : function.Admits type)
    (combines : function.combine type unit first second = .ok result) :
    result = .null ∨ result.type = type := by
  unfold combine at combines
  split at combines
  · exact .inr (addUnits_type admits combines)
  · cases combines
    exact .inr admits.symm
  · cases combines
    exact .inl rfl

/-- A date function combines arguments of the types it converts them to, which excludes
`NULL`, to a value of its type. -/
theorem combine_type_of_present {unit : TimeUnit} {first second : Value}
    (firstType : first.type = function.firstType) (secondType : second.type = .timestamp)
    (admits : function.Admits type)
    (combines : function.combine type unit first second = .ok result) : result.type = type := by
  cases function with
  | dateAdd =>
      cases first <;> cases firstType
      cases second <;> cases secondType
      exact addUnits_type admits combines
  | dateDiff =>
      cases first <;> cases firstType
      cases second <;> cases secondType
      cases combines
      exact admits.symm

theorem settled_addUnits (unit : TimeUnit) (count : Int64) (instant : Timestamp) :
    Settled (addUnits type unit count instant) := by
  unfold addUnits
  split
  · exact Value.settled_convertTo _ type
  · exact Spares.error rfl

/-- A function brings in no failure of its own that was to be found earlier. -/
theorem settled_combine (unit : TimeUnit) (first second : Value) :
    Settled (function.combine type unit first second) := by
  unfold combine
  split
  · exact settled_addUnits _ _ _
  · exact Spares.ok _
  · exact Spares.ok _

/-- A call in a given unit has a value just if its arguments have, both convert, and the results
combine. -/
theorem evaluateIn_eq_ok {unit : TimeUnit} :
    function.evaluateIn type unit first second = .ok result ↔
      ∃ a a' b b', first = .ok a ∧ a.convertTo function.firstType = .ok a' ∧
        second = .ok b ∧ b.convertTo .timestamp = .ok b' ∧
        function.combine type unit a' b' = .ok result := by
  simp only [evaluateIn, bind_eq_ok]
  constructor
  · rintro ⟨a, firstIs, a', firstConverts, b, secondIs, b', secondConverts, combines⟩
    exact ⟨a, a', b, b', firstIs, firstConverts, secondIs, secondConverts, combines⟩
  · rintro ⟨a, a', b, b', firstIs, firstConverts, secondIs, secondConverts, combines⟩
    exact ⟨a, firstIs, a', firstConverts, b, secondIs, b', secondConverts, combines⟩

/-- A call has a value just if its unit is `NULL`, or names a unit in which the call has the
value. -/
theorem evaluate_eq_ok :
    function.evaluate type unit first second = .ok result ↔
      ∃ named, unit = .ok named ∧ (named.isNull = true ∧ result = .null ∨
        named.isNull = false ∧ ∃ parsed, TimeUnit.parse named.display = .ok parsed ∧
          function.evaluateIn type parsed first second = .ok result) := by
  simp only [evaluate, bind_eq_ok]
  refine exists_congr fun named => and_congr_right fun _ => ?_
  by_cases absent : named.isNull
  · simp only [absent, ↓reduceIte, Except.ok.injEq, true_and, Bool.true_eq_false, false_and,
      or_false]
    exact eq_comm
  · simp only [absent, Bool.false_eq_true, ↓reduceIte, bind_eq_ok, false_and, true_and,
      false_or]

/-- A call whose unit is known does what its function does in that unit. -/
theorem evaluate_of_unit {named : Value} {parsed : TimeUnit} (present : named.isNull = false)
    (parses : TimeUnit.parse named.display = .ok parsed) :
    function.evaluate type (.ok named) first second =
      function.evaluateIn type parsed first second := by
  unfold evaluate
  change (if named.isNull = true then _ else _) = _
  rw [present, parses]
  rfl

/-- The value of a call is `NULL` or of its type. -/
theorem evaluate_type (admits : function.Admits type)
    (evaluates : function.evaluate type unit first second = .ok result) :
    result = .null ∨ result.type = type := by
  obtain ⟨_, _, ⟨_, rfl⟩ | ⟨_, _, _, evaluates⟩⟩ := evaluate_eq_ok.mp evaluates
  · exact .inl rfl
  · obtain ⟨_, _, _, _, _, _, _, _, combines⟩ := evaluateIn_eq_ok.mp evaluates
    exact combine_type admits combines

/-- A call for a unit other than `NULL` succeeds only if its other arguments do. -/
theorem arguments_of_evaluate {named : Value} (present : named.isNull = false)
    (evaluates : function.evaluate type (.ok named) first second = .ok result) :
    ∃ a b, first = .ok a ∧ second = .ok b := by
  obtain ⟨_, unitIs, ⟨absent, _⟩ | ⟨_, _, _, evaluates⟩⟩ := evaluate_eq_ok.mp evaluates
  · cases unitIs
    rw [present] at absent
    cases absent
  · obtain ⟨a, _, b, _, firstIs, _, secondIs, _⟩ := evaluateIn_eq_ok.mp evaluates
    exact ⟨a, b, firstIs, secondIs⟩

/-- The value of a call on values other than `NULL` is of its type. -/
theorem evaluate_type_of_present {named a b : Value} (present : named.isNull = false)
    (firstIs : first = .ok a) (secondIs : second = .ok b) (firstPresent : a.isNull = false)
    (secondPresent : b.isNull = false) (admits : function.Admits type)
    (evaluates : function.evaluate type (.ok named) first second = .ok result) :
    result.type = type := by
  subst firstIs secondIs
  obtain ⟨_, unitIs, ⟨absent, _⟩ | ⟨_, _, _, evaluates⟩⟩ := evaluate_eq_ok.mp evaluates
  · cases unitIs
    rw [present] at absent
    cases absent
  · obtain ⟨_, a', _, b', firstIs, firstConverts, secondIs, secondConverts, combines⟩ :=
      evaluateIn_eq_ok.mp evaluates
    cases firstIs
    cases secondIs
    have firstTyped : function.firstType.isUntyped = false := by cases function <;> rfl
    exact combine_type_of_present
      (Value.convertTo_type_of_present firstPresent firstTyped firstConverts)
      (Value.convertTo_type_of_present secondPresent rfl secondConverts) admits combines

theorem settled_evaluateIn (unit : TimeUnit) (settledFirst : Settled first)
    (settledSecond : Settled second) : Settled (function.evaluateIn type unit first second) :=
  settledFirst.bind fun a _ => (Value.settled_convertTo a _).bind fun a' _ =>
    settledSecond.bind fun b _ => (Value.settled_convertTo b _).bind fun b' _ =>
      settled_combine unit a' b'

/-- A call on settled outcomes is settled. -/
theorem settled_evaluate (settledUnit : Settled unit) (settledFirst : Settled first)
    (settledSecond : Settled second) : Settled (function.evaluate type unit first second) := by
  unfold evaluate
  refine settledUnit.bind fun named _ => ?_
  split
  · exact Spares.ok _
  · exact (settled_parse _).bind fun unit _ =>
      settled_evaluateIn unit settledFirst settledSecond

end DateFunction

end SqlScalar
