import SqlScalar.Proofs.NullOperands

/-! # Nodes on parallel operands

Two expressions are parallel if they have the same value or both none, and are of one type unless
that value is `NULL`. A node depends on its operands through their types and values, so it has the
same value on parallel operands wherever the type of a `NULL` makes no difference. In arithmetic it
does: the type decides between operators, and what the other operand is converted to.
-/

namespace SqlScalar

open Calendar Resolution

/-- An expression whose value, if it has one, is `NULL` or of its type. -/
def Expr.Faithful (context : Context) (expr : Expr) : Prop :=
  ∀ value, expr.evaluate context = .ok value → value = .null ∨ value.type = expr.type

namespace Resolution

variable {mode : Mode} {context : Context} {op : BinaryOp} {left right operand result : Expr}
  {function : DateFunction} {unit first second : Expr} {converts : Bool}

theorem faithful_literal (value : Value) : (Expr.literal value).Faithful context := by
  rintro _ same
  cases same
  exact .inr rfl

theorem faithful_negation (resolves : negation operand = .ok result) :
    result.Faithful context := by
  rcases negation_eq_ok resolves with ⟨_, value, _, _, rfl⟩ | ⟨_, rfl⟩
  · exact faithful_literal value
  · intro value evaluates
    exact evaluateNegation_type (negationType_ne_unknown operand.type) evaluates

theorem faithful_call (resolves : call function unit first second = .ok result) :
    result.Faithful context := by
  obtain ⟨known, _, ⟨_, _, _, value, _, _, _, _, rfl⟩ | ⟨_, rfl⟩⟩ := call_eq_ok resolves
  · exact faithful_literal value
  · intro value evaluates
    exact DateFunction.evaluate_type (admits_callType function known second.type) evaluates

/-- Whatever an operation becomes that converts its right operand is faithful. -/
theorem faithful_of_rewrites (rewrites : Rewrites mode op left right converts result)
    (converting : converts = true) : result.Faithful context := by
  induction rewrites with
  | @folds _ _ _ _ _ _ value _ _ _ => exact faithful_literal value
  | settles _ planned _ =>
      intro value evaluates
      obtain ⟨typed, strings⟩ := plan_typed planned
      exact BinaryOp.evaluate_type (DataType.ne_unknown_of_typed typed)
        (fun isConcat => ⟨strings isConcat, converting⟩) evaluates
  | keeps kept =>
      intro value evaluates
      refine BinaryOp.evaluate_type ?_ (fun isConcat => by cases isConcat) evaluates
      rcases kept.type_eq with rfl | rfl <;> nofun
  | scales =>
      intro value evaluates
      exact BinaryOp.evaluate_type nofun (fun isConcat => by cases isConcat) evaluates
  | swaps _ _ ih => exact ih converting
  | addsDays _ _ calls | addsSeconds _ _ _ calls | subtractsDays _ _ _ calls
  | subtractsSeconds _ _ _ _ calls | countsDays _ _ calls => exact faithful_call calls

end Resolution

/-- Two expressions with the same value or both without one, that are of one type unless they are
nothing but `NULL`. -/
structure Parallel (context : Context) (expr expr' : Expr) : Prop where
  values : SameValue (expr.evaluate context) (expr'.evaluate context)
  types : expr'.type = expr.type ∨ Blank (expr.evaluate context)

section Outcomes

variable {first second : Outcome Value}

theorem SameValue.symm (same : SameValue first second) : SameValue second first :=
  fun value => (same value).symm

theorem SameValue.blank (same : SameValue first second) (blank : Blank first) : Blank second :=
  fun value isValue => blank value ((same value).mpr isValue)

theorem sameValue_of_eq (same : first = second) : SameValue first second := by
  subst same
  exact .refl first

/-- Two outcomes without a value are the same. -/
theorem sameValue_of_no_value (firstFails : ∀ value, first ≠ .ok value)
    (secondFails : ∀ value, second ≠ .ok value) : SameValue first second :=
  fun value => ⟨fun isValue => absurd isValue (firstFails value),
    fun isValue => absurd isValue (secondFails value)⟩

end Outcomes

namespace Parallel

variable {context : Context} {expr expr' : Expr} {value : Value}

theorem refl (expr : Expr) : Parallel context expr expr :=
  ⟨.refl _, .inl rfl⟩

theorem symm (parallel : Parallel context expr expr') : Parallel context expr' expr :=
  ⟨parallel.values.symm, parallel.types.imp Eq.symm parallel.values.blank⟩

/-- Expressions with one value are parallel if they are of one type or that value is `NULL`. -/
theorem of_value (evaluates : expr.evaluate context = .ok value)
    (evaluates' : expr'.evaluate context = .ok value)
    (types : value = .null ∨ expr'.type = expr.type) : Parallel context expr expr' where
  values := sameValue_of_eq (evaluates.trans evaluates'.symm)
  types := by
    refine types.symm.imp_right ?_
    rintro rfl other isOther
    rw [evaluates] at isOther
    cases isOther
    rfl

/-- A value other than `NULL` gives the expressions that have it their type. -/
theorem of_faithful (same : SameValue (expr.evaluate context) (expr'.evaluate context))
    (faithful : expr.Faithful context) (faithful' : expr'.Faithful context) :
    Parallel context expr expr' where
  values := same
  types := by
    by_cases blank : Blank (expr.evaluate context)
    · exact .inr blank
    · simp only [Blank, not_forall] at blank
      obtain ⟨value, evaluates, present⟩ := blank
      have valueType := (faithful value evaluates).resolve_left present
      have valueType' := (faithful' value ((same value).mp evaluates)).resolve_left present
      exact .inl (valueType'.symm.trans valueType)

end Parallel

namespace Resolution

variable {context : Context}

/-- What could not be resolved has the failure of resolution for its outcome. -/
theorem valueOf_error (failure : Failure) : valueOf context (.error failure) = .error failure :=
  rfl

/-- Two nodes have the same value if they do for whatever an operand they share is resolved to. -/
theorem sameValue_bind {operand : Outcome Expr} {node node' : Expr → Outcome Expr}
    (same : ∀ resolved, operand = .ok resolved →
      SameValue (valueOf context (node resolved)) (valueOf context (node' resolved))) :
    SameValue (valueOf context (operand >>= node)) (valueOf context (operand >>= node')) := by
  cases operand with
  | error failure => exact .refl _
  | ok resolved => exact same resolved rfl

section Negation

variable {operand operand' : Expr}

/-- Negations of parallel operands have the same value. -/
theorem sameValue_negation (parallel : Parallel context operand operand') :
    SameValue (valueOf context (negation operand)) (valueOf context (negation operand')) := by
  rw [valueOf_negation, valueOf_negation]
  rcases parallel.types with same | blank
  · rw [same]
    exact sameValue_evaluateNegation parallel.values
  · intro value
    rw [evaluateNegation_of_blank blank, evaluateNegation_of_blank (parallel.values.blank blank),
      parallel.values .null]

end Negation

section Operation

variable {op : BinaryOp} {left left' right right' : Expr}

/-- Whether an outcome that is a value can be converted to both of two types or to neither. -/
def ConvertsAlike (type type' : DataType) (outcome : Outcome Value) : Prop :=
  ∀ value, outcome = .ok value →
    ((∃ result, value.convertTo type = .ok result) ↔ ∃ result, value.convertTo type' = .ok result)

/-- Whether an operation is done alike on two pairs of operands, as far as their types tell. -/
inductive ActsAlike (context : Context) (op : BinaryOp) (left right left' right' : Expr) : Prop
  /-- The operands have the same types. -/
  | types (leftType : left'.type = left.type) (rightType : right'.type = right.type)
  /-- The types of the operands give the operation the same operator and the same type. -/
  | plans (plain : Plain op left.type right.type) (plain' : Plain op left'.type right'.type)
      (planned : plan context.mode op left'.type right'.type =
        plan context.mode op left.type right.type)
  /-- The operation has two types, and either operand can be converted to both or to neither. -/
  | converts {settled settled' : BinaryOp} {type type' : DataType}
      (plain : Plain op left.type right.type) (plain' : Plain op left'.type right'.type)
      (planned : plan context.mode op left.type right.type = .ok (settled, type))
      (planned' : plan context.mode op left'.type right'.type = .ok (settled', type'))
      (steady : settled = .concat → context.mode.nullConcatIsNull = true)
      (steady' : settled' = .concat → context.mode.nullConcatIsNull = true)
      (leftConverts : ConvertsAlike type type' (left.evaluate context))
      (rightConverts : ConvertsAlike type type' (right.evaluate context))
  /-- A time of day is scaled, on the same side. -/
  | scales {scaling : ArithOp} (isScaling : op = .arith scaling)
      (multiplies : scaling = .multiply ∨ scaling = .divide)
      (leftTime : left'.type = .time ↔ left.type = .time)
      (rightTime : right'.type = .time ↔ right.type = .time)
      (time : left.type = .time ∨ right.type = .time)
  /-- The operation is not defined on either pair. -/
  | fails (unresolved : ∀ result, operation context.mode op left right true ≠ .ok result)
      (unresolved' : ∀ result, operation context.mode op left' right' true ≠ .ok result)

/-- Operands of the same types and values can be exchanged. -/
theorem valueOf_operation_of_types {value : Value} (leftParallel : Parallel context left left')
    (rightParallel : Parallel context right right') (leftType : left'.type = left.type)
    (rightType : right'.type = right.type)
    (isValue : valueOf context (operation context.mode op left right true) = .ok value) :
    valueOf context (operation context.mode op left' right' true) = .ok value := by
  obtain ⟨result, operates, evaluates⟩ := bind_eq_ok.mp isValue
  obtain ⟨⟨a, leftIs⟩, b, rightIs⟩ :=
    defined_of_rewrites (operation_rewrites operates) ⟨value, evaluates⟩
  have leftAgree : Agree context context left left' :=
    ⟨leftType, ((leftParallel.values a).mp leftIs).trans leftIs.symm⟩
  have rightAgree : Agree context context right right' :=
    ⟨rightType, ((rightParallel.values b).mp rightIs).trans rightIs.symm⟩
  rw [Agree.valueOf_operation rfl leftAgree rightAgree]
  exact isValue

/-- An operation has the same value on parallel operands of the same types. -/
theorem sameValue_operation_of_types (leftParallel : Parallel context left left')
    (rightParallel : Parallel context right right') (leftType : left'.type = left.type)
    (rightType : right'.type = right.type) :
    SameValue (valueOf context (operation context.mode op left right true))
      (valueOf context (operation context.mode op left' right' true)) :=
  fun _ => ⟨valueOf_operation_of_types leftParallel rightParallel leftType rightType,
    valueOf_operation_of_types leftParallel.symm rightParallel.symm leftType.symm rightType.symm⟩

/-- A time of day is scaled to the same value by parallel factors. -/
theorem sameValue_of_scales {scaling : ArithOp} (leftParallel : Parallel context left left')
    (rightParallel : Parallel context right right')
    (multiplies : scaling = .multiply ∨ scaling = .divide)
    (leftTime : left'.type = .time ↔ left.type = .time)
    (rightTime : right'.type = .time ↔ right.type = .time)
    (time : left.type = .time ∨ right.type = .time) :
    SameValue (valueOf context (operation context.mode (.arith scaling) left right true))
      (valueOf context (operation context.mode (.arith scaling) left' right' true)) := by
  by_cases first : left.type = .time
  · rw [operation_of_scales multiplies first, operation_of_scales multiplies (leftTime.mpr first)]
    exact BinaryOp.sameValue_evaluate leftParallel.values rightParallel.values
  · have second := time.resolve_left first
    have first' := mt leftTime.mp first
    have second' := rightTime.mpr second
    rcases multiplies with rfl | rfl
    · rw [operation_of_factor first second, operation_of_factor first' second']
      exact BinaryOp.sameValue_evaluate rightParallel.values leftParallel.values
    · -- Nothing is divided by a time of day.
      rw [operation_of_temporal (.inr (by rw [second]; rfl)),
        operation_of_temporal (.inr (by rw [second']; rfl))]
      simp only [temporal, first, first', ↓reduceIte, unsupported, valueOf_error]
      exact sameValue_of_no_value (fun _ isValue => by cases isValue)
        (fun _ isValue => by cases isValue)

/-- Operations one of whose operands is blank have the same value in two types, if the operands
convert alike to both. -/
theorem sameValue_of_converts {settled settled' : BinaryOp} {type type' : DataType}
    (leftParallel : Parallel context left left') (rightParallel : Parallel context right right')
    (blank : Blank (left.evaluate context) ∨ Blank (right.evaluate context))
    (steady : settled = .concat → context.mode.nullConcatIsNull = true)
    (steady' : settled' = .concat → context.mode.nullConcatIsNull = true)
    (leftConverts : ConvertsAlike type type' (left.evaluate context))
    (rightConverts : ConvertsAlike type type' (right.evaluate context)) :
    SameValue
      (settled.evaluate context.mode type true (left.evaluate context) (right.evaluate context))
      (settled'.evaluate context.mode type' true (left'.evaluate context)
        (right'.evaluate context)) := by
  intro value
  have blank' := blank.imp leftParallel.values.blank rightParallel.values.blank
  rw [BinaryOp.evaluate_of_blank steady blank, BinaryOp.evaluate_of_blank steady' blank']
  refine and_congr_right fun _ => exists_congr fun a => exists_congr fun b => ?_
  rw [← leftParallel.values a, ← rightParallel.values b]
  refine and_congr_right fun leftIs => and_congr_right fun rightIs => ?_
  rw [leftConverts a leftIs, rightConverts b rightIs]

/-- An operation that is done alike on parallel operands has the same value on them. -/
theorem sameValue_operation (leftParallel : Parallel context left left')
    (rightParallel : Parallel context right right')
    (alike : ActsAlike context op left right left' right') :
    SameValue (valueOf context (operation context.mode op left right true))
      (valueOf context (operation context.mode op left' right' true)) := by
  by_cases types : left'.type = left.type ∧ right'.type = right.type
  · exact sameValue_operation_of_types leftParallel rightParallel types.1 types.2
  · cases alike with
    | types leftType rightType => exact absurd ⟨leftType, rightType⟩ types
    | plans plain plain' planned =>
        rw [valueOf_plain plain, valueOf_plain plain', planned]
        cases plan context.mode op left.type right.type with
        | error failure => exact .refl _
        | ok planned => exact BinaryOp.sameValue_evaluate leftParallel.values rightParallel.values
    | converts plain plain' planned planned' steady steady' leftConverts rightConverts =>
        rw [valueOf_plain plain, valueOf_plain plain', planned, planned']
        have blank : Blank (left.evaluate context) ∨ Blank (right.evaluate context) := by
          rcases not_and_or.mp types with leftDiffers | rightDiffers
          · exact .inl (leftParallel.types.resolve_left leftDiffers)
          · exact .inr (rightParallel.types.resolve_left rightDiffers)
        exact sameValue_of_converts leftParallel rightParallel blank steady steady' leftConverts
          rightConverts
    | scales isScaling multiplies leftTime rightTime time =>
        subst isScaling
        exact sameValue_of_scales leftParallel rightParallel multiplies leftTime rightTime time
    | fails unresolved unresolved' =>
        refine sameValue_of_no_value (fun value isValue => ?_) (fun value isValue => ?_)
        · obtain ⟨result, operates, _⟩ := bind_eq_ok.mp isValue
          exact unresolved result operates
        · obtain ⟨result, operates, _⟩ := bind_eq_ok.mp isValue
          exact unresolved' result operates

end Operation

section Call

variable {function : DateFunction} {unit unit' first first' second second' : Expr}

/-- A call that has a value looks at its arguments unless its unit is `NULL`. -/
theorem unit_null_or_defined {result : Expr} {value : Value}
    (calls : call function unit first second = .ok result)
    (evaluates : result.evaluate context = .ok value) :
    unit.evaluate context = .ok .null ∨ first.Defined context ∧ second.Defined context := by
  obtain ⟨known, knownIs, _⟩ := call_eq_ok calls
  rw [evaluate_of_call knownIs calls] at evaluates
  obtain ⟨named, unitIs, ⟨absent, _⟩ | ⟨_, _, _, evaluatesIn⟩⟩ :=
    DateFunction.evaluate_eq_ok.mp evaluates
  · rw [Value.isNull_iff.mp absent] at unitIs
    exact .inl unitIs
  · obtain ⟨a, _, b, _, firstIs, _, secondIs, _⟩ := DateFunction.evaluateIn_eq_ok.mp evaluatesIn
    exact .inr ⟨⟨a, firstIs⟩, b, secondIs⟩

theorem call_of_bad_unit {failure : Failure} (unknown : constantUnit unit = .error failure) :
    call function unit first second = .error failure := by
  unfold call
  rw [unknown]
  rfl

/-- A call has the same value on parallel first arguments. -/
theorem sameValue_first (parallel : Parallel context first first') :
    SameValue (valueOf context (call function unit first second))
      (valueOf context (call function unit first' second)) := by
  cases knownIs : constantUnit unit with
  | error failure =>
      rw [call_of_bad_unit knownIs, call_of_bad_unit knownIs]
      exact .refl _
  | ok known =>
      rw [valueOf_call knownIs, valueOf_call knownIs]
      exact DateFunction.sameValue_evaluate (.refl _) parallel.values (.refl _)

/-- A call has the same value on parallel second arguments. -/
theorem sameValue_second (parallel : Parallel context second second') :
    SameValue (valueOf context (call function unit first second))
      (valueOf context (call function unit first second')) := by
  cases knownIs : constantUnit unit with
  | error failure =>
      rw [call_of_bad_unit knownIs, call_of_bad_unit knownIs]
      exact .refl _
  | ok known =>
      rw [valueOf_call knownIs, valueOf_call knownIs]
      have values : ∀ type, SameValue
          (function.evaluate type (unit.evaluate context) (first.evaluate context)
            (second.evaluate context))
          (function.evaluate type (unit.evaluate context) (first.evaluate context)
            (second'.evaluate context)) :=
        fun _ => DateFunction.sameValue_evaluate (.refl _) (.refl _) parallel.values
      rcases parallel.types with same | blank
      · rw [same]
        exact values _
      · intro value
        rw [values _ value]
        have blank' := parallel.values.blank blank
        exact ⟨DateFunction.evaluate_of_blank blank', DateFunction.evaluate_of_blank blank'⟩

theorem constantUnit_of_varying (varying : unit.isConstant = false) :
    constantUnit unit = .ok none := by
  cases unit <;> first | rfl | cases varying

/-- Where a constant unit is refused, it is a value that names none. -/
theorem unparsed_of_constantUnit {failure : Failure}
    (unknown : constantUnit unit = .error failure) :
    ∃ named, unit = .literal named ∧ named.isNull = false ∧
      TimeUnit.parse named.display = .error failure := by
  cases unit with
  | literal named =>
      refine ⟨named, rfl, ?_⟩
      simp only [constantUnit] at unknown
      split at unknown
      · cases unknown
      · rename_i present
        refine ⟨Bool.eq_false_of_not_eq_true present, ?_⟩
        cases parses : TimeUnit.parse named.display with
        | ok parsed => rw [parses] at unknown; cases unknown
        | error other => rw [parses] at unknown; cases unknown; rfl
  | _ => cases unknown

/-- A constant that names no unit keeps a call from having a value. -/
theorem evaluate_of_bad_unit {failure : Failure} {type : DataType} {a b : Outcome Value}
    (unknown : constantUnit unit = .error failure) (value : Value) :
    function.evaluate type (unit.evaluate context) a b ≠ .ok value := by
  intro evaluates
  obtain ⟨named, rfl, present, unparsed⟩ := unparsed_of_constantUnit unknown
  obtain ⟨_, unitIs, ⟨absent, _⟩ | ⟨_, parsed, parses, _⟩⟩ :=
    DateFunction.evaluate_eq_ok.mp evaluates
  · cases unitIs
    rw [present] at absent
    cases absent
  · cases unitIs
    rw [unparsed] at parses
    cases parses

/-- Whether the type of a call does not depend on what is known of its unit, or nothing is known of
a unit: it is `NULL` or no constant. -/
def IgnoresUnit (function : DateFunction) (unit second : Expr) : Prop :=
  function = .dateDiff ∨ second.type ≠ .date ∨ unit.isConstant = false ∨ unit = .literal .null

theorem callType_of_ignored {moved : DataType} (known : Option TimeUnit)
    (ignored : function = .dateDiff ∨ moved ≠ .date) :
    callType function known moved = callType function none moved := by
  cases function with
  | dateDiff => rfl
  | dateAdd => cases moved <;> first | rfl | exact absurd rfl (ignored.resolve_left nofun)

/-- A unit that is no constant stands for one that may be, wherever the type of the call does not
depend on it. -/
theorem sameValue_unit (parallel : Parallel context unit unit')
    (varying : unit'.isConstant = false) (ignores : IgnoresUnit function unit second) :
    SameValue (valueOf context (call function unit first second))
      (valueOf context (call function unit' first second)) := by
  rw [valueOf_call (constantUnit_of_varying varying)]
  have values (type : DataType) : SameValue
      (function.evaluate type (unit.evaluate context) (first.evaluate context)
        (second.evaluate context))
      (function.evaluate type (unit'.evaluate context) (first.evaluate context)
        (second.evaluate context)) :=
    DateFunction.sameValue_evaluate parallel.values (.refl _) (.refl _)
  cases knownIs : constantUnit unit with
  | ok known =>
      rw [valueOf_call knownIs]
      have typed : callType function known second.type = callType function none second.type := by
        rcases ignores with isDifference | undated | unknown | rfl
        · exact callType_of_ignored known (.inl isDifference)
        · exact callType_of_ignored known (.inr undated)
        · rw [constantUnit_of_varying unknown] at knownIs
          cases knownIs
          rfl
        · cases knownIs
          rfl
      rw [typed]
      exact values _
  | error failure =>
      -- A constant that names no unit is found out either way, sooner or later.
      rw [call_of_bad_unit knownIs, valueOf_error]
      refine sameValue_of_no_value (fun _ isValue => by cases isValue) fun value isValue => ?_
      exact evaluate_of_bad_unit knownIs value ((values _ value).mpr isValue)

end Call

end Resolution

end SqlScalar
