import SqlScalar.Proofs.FedExpressions

/-! # Results that are `NULL`

Whether a resolved expression is `NULL` is told by its leaves alone: arithmetic, negation and
calls are `NULL` if an operand is, and a concatenation if one or both of its operands are,
depending on the mode it is evaluated under. No conversion and no computation makes a `NULL` of
its own, or does away with one.
-/

namespace SqlScalar

open Calendar Resolution

/-- Whether an operation is `NULL`, given whether its operands are. -/
def BinaryOp.NullOn (mode : Mode) (op : BinaryOp) (left right : Prop) : Prop :=
  match op with
  | concat => if mode.nullConcatIsNull then left ∨ right else left ∧ right
  | arith _ => left ∨ right

/-- Whether an expression is `NULL` in a context, as far as its leaves tell. An aggregate is a
leaf. -/
def Expr.NullByLeaves (context : Context) : Expr → Prop
  | literal value => value = .null
  | column reference => reference.evaluate context.row = .ok .null
  | parameter index => context.parameters[index.toNat]? = some .null
  | negate operand _ => operand.NullByLeaves context
  | binary op left right _ _ =>
      op.NullOn context.mode (left.NullByLeaves context) (right.NullByLeaves context)
  | call _ unit first second _ =>
      unit.NullByLeaves context ∨ first.NullByLeaves context ∨ second.NullByLeaves context
  | aggregate kind _ _ state => kind.value state = .null

namespace Value

variable {value result : Value} {target : DataType}

/-- Only `NULL` is `NULL`. -/
theorem isNull_iff : value.isNull = true ↔ value = .null := by
  cases value with
  | null => exact ⟨fun _ => rfl, fun _ => rfl⟩
  | _ =>
      constructor
      · intro absent; cases absent
      · intro same; cases same

/-- A conversion to a type with values neither makes a `NULL` nor does away with one. -/
theorem isNull_of_convertTo (typed : target.isUntyped = false)
    (converts : value.convertTo target = .ok result) : result.isNull = value.isNull := by
  cases absent : value.isNull with
  | true =>
      rw [isNull_iff.mp absent, convertTo_null] at converts
      cases converts
      rfl
  | false =>
      have resultType := convertTo_type_of_present absent typed converts
      exact isNull_eq_false_of_typed (by rw [resultType]; exact typed)

/-- Arithmetic on values other than `NULL` is not `NULL`. -/
theorem isNull_of_arith {op : ArithOp} {left right : Value} (present : left.isNull = false)
    (computes : left.arith op right = .ok result) : result.isNull = false := by
  have resultType := arith_type computes
  exact isNull_eq_false_of_typed (by rw [resultType]; exact isUntyped_type present)

/-- A negated value is `NULL` just if the value is. -/
theorem isNull_of_negate (negates : value.negate = .ok result) : result.isNull = value.isNull := by
  cases absent : value.isNull with
  | true =>
      rw [isNull_iff.mp absent] at negates
      cases negates
      rfl
  | false =>
      have resultType := negate_type negates
      exact isNull_eq_false_of_typed (by rw [resultType]; exact isUntyped_type absent)

end Value

/-- Concatenation is `NULL` if one operand is, or if both are, as the mode has it. -/
theorem concatenate_isNull (mode : Mode) (left right : Value) :
    (concatenate mode left right).isNull =
      if mode.nullConcatIsNull then left.isNull || right.isNull
      else left.isNull && right.isNull := by
  unfold concatenate
  cases mode.nullConcatIsNull with
  | true => cases leftAbsent : left.isNull <;> cases rightAbsent : right.isNull <;> rfl
  | false =>
      cases leftAbsent : left.isNull with
      | true => rfl
      | false =>
          cases rightAbsent : right.isNull with
          | true => exact leftAbsent
          | false => rfl

namespace BinaryOp

variable {mode : Mode} {op : BinaryOp} {type : DataType} {converts : Bool} {a b value : Value}

/-- Values combine to `NULL` just if the operation is `NULL` on them. -/
theorem combine_isNull_iff (combines : op.combine mode a b = .ok value) :
    value.isNull = true ↔ op.NullOn mode (a.isNull = true) (b.isNull = true) := by
  cases op with
  | concat =>
      cases combines
      rw [concatenate_isNull, NullOn]
      split
      · exact Bool.or_eq_true _ _ ▸ Iff.rfl
      · exact Bool.and_eq_true _ _ ▸ Iff.rfl
  | arith op =>
      simp only [combine] at combines
      rw [NullOn, ← Bool.or_eq_true]
      split at combines
      · rename_i absent
        cases combines
        exact ⟨fun _ => absent, fun _ => rfl⟩
      · rename_i present
        have present := Bool.eq_false_of_not_eq_true present
        have computed := Value.isNull_of_arith (Bool.or_eq_false_iff.mp present).1 combines
        rw [computed, present]

/-- Conversion of the operands does not matter for whether an operation is `NULL`. -/
theorem evaluate_isNull_iff (typed : type.isUntyped = false)
    (evaluates : op.evaluate mode type converts (.ok a) (.ok b) = .ok value) :
    value.isNull = true ↔ op.NullOn mode (a.isNull = true) (b.isNull = true) := by
  obtain ⟨_, a', _, b', leftIs, leftConverts, rightIs, rightConverts, combines⟩ :=
    evaluate_eq_ok.mp evaluates
  cases leftIs
  cases rightIs
  have leftSame := Value.isNull_of_convertTo typed leftConverts
  have rightSame : b'.isNull = b.isNull := by
    cases converts with
    | true => exact Value.isNull_of_convertTo typed rightConverts
    | false => cases rightConverts; rfl
  rw [combine_isNull_iff combines, leftSame, rightSame]

end BinaryOp

/-- A call is only `NULL` if an argument is. -/
theorem DateFunction.null_of_evaluate {function : DateFunction} {type : DataType}
    {unit first second : Outcome Value} {value : Value} (admits : function.Admits type)
    (evaluates : function.evaluate type unit first second = .ok value)
    (absent : value.isNull = true) :
    unit = .ok .null ∨ first = .ok .null ∨ second = .ok .null := by
  obtain ⟨named, unitIs, ⟨unitAbsent, _⟩ | ⟨unitPresent, _, _, evaluatesIn⟩⟩ :=
    evaluate_eq_ok.mp evaluates
  · rw [unitIs, Value.isNull_iff.mp unitAbsent]
    exact .inl rfl
  · obtain ⟨a, _, b, _, firstIs, _, secondIs, _⟩ := evaluateIn_eq_ok.mp evaluatesIn
    rw [firstIs, secondIs]
    cases firstAbsent : a.isNull with
    | true => exact .inr (.inl (by rw [Value.isNull_iff.mp firstAbsent]))
    | false =>
        cases secondAbsent : b.isNull with
        | true => exact .inr (.inr (by rw [Value.isNull_iff.mp secondAbsent]))
        | false =>
            rw [unitIs] at evaluates
            have valueType := evaluate_type_of_present unitPresent firstIs secondIs firstAbsent
              secondAbsent admits evaluates
            have present : value.isNull = false :=
              Value.isNull_eq_false_of_typed (by rw [valueType]; exact admits.typed)
            rw [present] at absent
            cases absent

/-- The negation of an operand other than `NULL` has a type that says something about its values. -/
theorem Resolution.isUntyped_negationType {type : DataType} (typed : type ≠ .null) :
    (negationType type).isUntyped = false := by
  cases type <;> first | rfl | exact absurd rfl typed

namespace Expr

variable {mode : Mode} {expr : Expr} {context : Context} {value : Value}

/-- Leaves tell whether a resolved expression is `NULL` if its aggregates have picked their
values out of fruitful arguments. -/
theorem isNull_iff_nullByLeaves (resolved : Resolved mode expr) (picks : expr.PicksFruitful)
    (conforms : expr.Conforms context.row) (evaluates : expr.evaluate context = .ok value) :
    value.isNull = true ↔ expr.NullByLeaves context := by
  induction resolved generalizing value with
  | literal held =>
      cases evaluates
      exact Value.isNull_iff
  | @column reference _ =>
      change reference.evaluate context.row = .ok value at evaluates
      rw [NullByLeaves, evaluates, Except.ok.injEq]
      exact Value.isNull_iff
  | parameter index =>
      simp only [evaluate] at evaluates
      split at evaluates
      · rename_i held isHeld
        cases evaluates
        rw [NullByLeaves, isHeld, Option.some.injEq]
        exact Value.isNull_iff
      · cases evaluates
  | @negate operand operandResolved varying ih =>
      obtain ⟨a, a', operandIs, converts, negates⟩ := evaluateNegation_eq_ok.mp evaluates
      rw [NullByLeaves, ← ih picks conforms operandIs]
      cases absent : a.isNull with
      | true =>
          rw [Value.isNull_iff.mp absent, Value.convertTo_null] at converts
          cases converts
          cases negates
          exact Iff.rfl
      | false =>
          -- An operand with a value has a type, so its conversion is none to `NULL`.
          have genuine := genuineTypes_of_resolved operandResolved
          have fruitful := fruitful_of_evaluate genuine picks conforms operandIs absent
          have typed := isUntyped_negationType (fruitful.typed operandResolved)
          rw [Value.isNull_of_negate negates, Value.isNull_of_convertTo typed converts, absent]
  | @binary op left right type converts _ _ stays leftIH rightIH =>
      obtain ⟨a, _, b, _, leftIs, _, rightIs, _⟩ := BinaryOp.evaluate_eq_ok.mp evaluates
      obtain ⟨leftConforms, rightConforms⟩ := conforms_binary.mp conforms
      change op.evaluate context.mode type converts (left.evaluate context)
        (right.evaluate context) = .ok value at evaluates
      rw [leftIs, rightIs] at evaluates
      rw [NullByLeaves, ← leftIH picks.1 leftConforms leftIs,
        ← rightIH picks.2 rightConforms rightIs]
      exact BinaryOp.evaluate_isNull_iff stays.typed.1 evaluates
  | @call function unit first second known _ _ _ _ _ unitIH firstIH secondIH =>
      obtain ⟨⟨unitPicks, firstPicks⟩, secondPicks⟩ := picks
      obtain ⟨⟨unitConforms, firstConforms⟩, secondConforms⟩ := conforms_call.mp conforms
      have unitNull {value : Value} := @unitIH value unitPicks unitConforms
      have firstNull {value : Value} := @firstIH value firstPicks firstConforms
      have secondNull {value : Value} := @secondIH value secondPicks secondConforms
      constructor
      · intro absent
        have admits := admits_callType function known second.type
        rcases DateFunction.null_of_evaluate admits evaluates absent with
          missing | missing | missing
        · exact .inl ((unitNull missing).mp rfl)
        · exact .inr (.inl ((firstNull missing).mp rfl))
        · exact .inr (.inr ((secondNull missing).mp rfl))
      · intro missing
        cases absent : value.isNull with
        | true => rfl
        | false =>
            obtain ⟨named, a, b, ⟨unitIs, unitPresent⟩, ⟨firstIs, firstPresent⟩, secondIs,
              secondPresent⟩ := DateFunction.present_of_evaluate evaluates absent
            rcases missing with missing | missing | missing
            · rw [(unitNull unitIs).mpr missing] at unitPresent
              cases unitPresent
            · rw [(firstNull firstIs).mpr missing] at firstPresent
              cases firstPresent
            · rw [(secondNull secondIs).mpr missing] at secondPresent
              cases secondPresent
  | aggregate _ _ _ =>
      cases evaluates
      exact Value.isNull_iff

end Expr

/-- The result of a resolved expression whose aggregates have only been fed conforming rows is
`NULL` on a conforming row if and only if the leaves say so, whatever the expression and the
evaluating mode. -/
theorem evaluate_null_iff {mode : Mode} {expr : Expr} {context : Context} {value : Value}
    (fed : WellFed expr) (resolved : Resolved mode expr) (conforms : expr.Conforms context.row)
    (evaluates : expr.evaluate context = .ok value) :
    value = .null ↔ expr.NullByLeaves context := by
  rw [← Value.isNull_iff]
  exact Expr.isNull_iff_nullByLeaves resolved fed.accounted.2 conforms evaluates

/-- A negated minimum of 3 with a missing label behind it is not `NULL` where concatenation
passes over what is missing. -/
theorem null_of_labelled_minimum :
    let number : ColumnRef := ⟨none, "N", some ⟨"T", ⟨0, .integer⟩, 0⟩, true⟩
    let label : ColumnRef := ⟨none, "S", some ⟨"T", ⟨1, .varchar⟩, 0⟩, true⟩
    let labelled :=
      Expr.concat (.negated (.aggregated .min (.column number))) (.column label)
    let seen : Context := ⟨.regular, [.integer 3, .null], []⟩
    let asked : Context := ⟨.ofProduct .mySql, [.null, .null], []⟩
    ∃ result, labelled.resolve .regular = .ok result ∧
      (result.feed seen).subject.evaluate asked = .ok (.varchar "-3") ∧
      WellFed (result.feed seen).subject ∧ Resolved .regular (result.feed seen).subject ∧
      (result.feed seen).subject.Conforms asked.row ∧
      (Value.varchar "-3" = .null ↔ (result.feed seen).subject.NullByLeaves asked) := by
  intro number label labelled seen asked
  let settled : Expr := .binary .concat
    (.negate (.aggregate .min (.column number) (some .integer) .start) (some .integer))
    (.column label) (some .varchar) true
  have resolves : labelled.resolve .regular = .ok settled := rfl
  have conforms {expr : Expr} (columns : expr.columns = {number, label}) {first : Value}
      (firstSuits : first.isNull = true ∨ first.type = .integer) :
      expr.Conforms [first, .null] := by
    intro reference mentioned value isValue
    rw [columns] at mentioned
    rcases Multiset.mem_cons.mp mentioned with rfl | mentioned
    · cases isValue
      exact firstSuits
    · cases Multiset.mem_singleton.mp mentioned
      cases isValue
      exact .inl rfl
  have built : WellFed labelled :=
    .operation .concat (.negated (.aggregated .min (.column number))) (.column label)
  have fed : WellFed (settled.feed seen).subject :=
    .used (.feed seen) (conforms rfl (.inr rfl)) (built.resolved resolves)
  have resolved : Resolved .regular (settled.feed seen).subject :=
    Use.resolved_apply (.of_resolve resolves) (.feed seen)
  have asks : (settled.feed seen).subject.Conforms asked.row := conforms rfl (.inl rfl)
  have evaluates : (settled.feed seen).subject.evaluate asked = .ok (.varchar "-3") := rfl
  exact ⟨settled, resolves, evaluates, fed, resolved, asks,
    evaluate_null_iff fed resolved asks evaluates⟩

end SqlScalar
