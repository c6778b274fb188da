import SqlScalar.Proofs.NullResults
import SqlScalar.Proofs.PresentValues

/-! # Operands that are `NULL`

A node with an operand that is `NULL` is `NULL` if it has a value at all, whatever types its
operands have. The exception is arithmetic that is read as a concatenation under a mode in which
concatenation passes over `NULL`; it takes two operands that may be strings.
-/

namespace SqlScalar

open Calendar Resolution

/-- Whether two outcomes are one value or both failures. -/
def SameValue (first second : Outcome Value) : Prop :=
  ∀ value, first = .ok value ↔ second = .ok value

/-- Whether an outcome is no value but `NULL`. -/
def Blank (outcome : Outcome Value) : Prop :=
  ∀ value, outcome = .ok value → value = .null

/-- Whether an operand of this type may take part in a concatenation written as arithmetic: no
type is preferred to `VARCHAR`. -/
def DataType.isTextual (type : DataType) : Bool :=
  type.rank ≤ varchar.rank

/-- Whether arithmetic may be a concatenation that passes over `NULL`. -/
def Mode.passesOver (mode : Mode) : Bool :=
  mode.plusConcatenates && !mode.nullConcatIsNull

namespace DataType

theorem isTextual_of_isUntyped {type : DataType} (untyped : type.isUntyped = true) :
    type.isTextual = true := by
  cases type <;> first | rfl | cases untyped

/-- The preferred one of two types is that of strings only if neither is preferred to it. -/
theorem textual_of_promote {left right : DataType} (promotes : promote left right = .ok varchar) :
    left.isTextual = true ∧ right.isTextual = true := by
  unfold promote preferred at promotes
  simp only [isTextual, decide_eq_true_eq]
  split at promotes
  · cases promotes
  · split at promotes
    · rename_i below
      cases promotes
      exact ⟨Nat.le_refl _, Nat.le_of_lt below⟩
    · rename_i above
      cases promotes
      exact ⟨Nat.le_of_not_lt above, Nat.le_refl _⟩

end DataType

section Congruence

variable {mode : Mode} {type : DataType} {left left' right right' : Outcome Value}

theorem SameValue.refl (outcome : Outcome Value) : SameValue outcome outcome :=
  fun _ => Iff.rfl

theorem sameValue_evaluateNegation (same : SameValue left left') :
    SameValue (evaluateNegation type left) (evaluateNegation type left') := by
  intro value
  unfold SameValue at same
  simp only [evaluateNegation_eq_ok, same]

/-- An operation depends on the values alone, not on the failures. -/
theorem BinaryOp.sameValue_evaluate {op : BinaryOp} {converts : Bool}
    (leftSame : SameValue left left') (rightSame : SameValue right right') :
    SameValue (op.evaluate mode type converts left right)
      (op.evaluate mode type converts left' right') := by
  intro value
  unfold SameValue at leftSame rightSame
  simp only [evaluate_eq_ok, leftSame, rightSame]

/-- A call depends on the values alone, not on the failures. -/
theorem DateFunction.sameValue_evaluate {function : DateFunction} {unit unit' : Outcome Value}
    (unitSame : SameValue unit unit') (leftSame : SameValue left left')
    (rightSame : SameValue right right') :
    SameValue (function.evaluate type unit left right)
      (function.evaluate type unit' left' right') := by
  intro value
  unfold SameValue at unitSame leftSame rightSame
  simp only [evaluate_eq_ok, evaluateIn_eq_ok, unitSame, leftSame, rightSame]

end Congruence

section Blank

variable {mode : Mode} {type : DataType} {left right : Outcome Value} {value : Value}

/-- The negation of what is no value but `NULL` is `NULL`, if it has a value. -/
theorem evaluateNegation_of_blank (blank : Blank left) :
    evaluateNegation type left = .ok value ↔ left = .ok .null ∧ value = .null := by
  rw [evaluateNegation_eq_ok]
  constructor
  · rintro ⟨a, a', operandIs, converts, negates⟩
    cases blank a operandIs
    rw [Value.convertTo_null] at converts
    cases converts
    cases negates
    exact ⟨operandIs, rfl⟩
  · rintro ⟨operandIs, rfl⟩
    exact ⟨.null, .null, operandIs, Value.convertTo_null, rfl⟩

namespace BinaryOp

variable {op : BinaryOp} {a b : Value}

/-- Anything combined with `NULL` is `NULL`, unless texts are joined and `NULL` is passed over. -/
theorem combine_of_null (steady : op = .concat → mode.nullConcatIsNull = true)
    (absent : a = .null ∨ b = .null) : op.combine mode a b = .ok .null := by
  cases op with
  | concat =>
      simp only [combine, concatenate, steady rfl, ↓reduceIte]
      rcases absent with rfl | rfl
      · rfl
      · cases a <;> rfl
  | arith op =>
      refine if_pos ?_
      rcases absent with rfl | rfl
      · rfl
      · exact Bool.or_true _

/-- With an operand that is nothing but `NULL`, an operation is `NULL` if both operands have
values that can be converted to its type. -/
theorem evaluate_of_blank (steady : op = .concat → mode.nullConcatIsNull = true)
    (blank : Blank left ∨ Blank right) :
    op.evaluate mode type true left right = .ok value ↔
      value = .null ∧ ∃ a b, left = .ok a ∧ right = .ok b ∧
        (∃ a', a.convertTo type = .ok a') ∧ ∃ b', b.convertTo type = .ok b' := by
  have nulls {a a' b b' : Value} (leftIs : left = .ok a) (rightIs : right = .ok b)
      (leftConverts : a.convertTo type = .ok a') (rightConverts : b.convertTo type = .ok b') :
      op.combine mode a' b' = .ok .null := by
    refine combine_of_null steady ?_
    rcases blank with blank | blank
    · cases blank a leftIs
      rw [Value.convertTo_null] at leftConverts
      cases leftConverts
      exact .inl rfl
    · cases blank b rightIs
      rw [Value.convertTo_null] at rightConverts
      cases rightConverts
      exact .inr rfl
  rw [evaluate_eq_ok]
  constructor
  · rintro ⟨a, a', b, b', leftIs, leftConverts, rightIs, rightConverts, combines⟩
    rw [nulls leftIs rightIs leftConverts rightConverts] at combines
    cases combines
    exact ⟨rfl, a, b, leftIs, rightIs, ⟨a', leftConverts⟩, ⟨b', rightConverts⟩⟩
  · rintro ⟨rfl, a, b, leftIs, rightIs, ⟨a', leftConverts⟩, ⟨b', rightConverts⟩⟩
    exact ⟨a, a', b, b', leftIs, leftConverts, rightIs, rightConverts,
      nulls leftIs rightIs leftConverts rightConverts⟩

theorem convertRight_null {converts : Bool} : convertRight converts type .null = .ok .null := by
  cases converts with
  | true => exact Value.convertTo_null
  | false => rfl

/-- Whether or not the right operand is converted, an operation with an operand that is `NULL`
is `NULL`. -/
theorem null_of_evaluate {converts : Bool} (steady : op = .concat → mode.nullConcatIsNull = true)
    (missing : left = .ok .null ∨ right = .ok .null)
    (evaluates : op.evaluate mode type converts left right = .ok value) : value = .null := by
  obtain ⟨a, a', b, b', leftIs, leftConverts, rightIs, rightConverts, combines⟩ :=
    evaluate_eq_ok.mp evaluates
  have absent : a' = .null ∨ b' = .null := by
    rcases missing with missing | missing
    · rw [missing] at leftIs
      cases leftIs
      rw [Value.convertTo_null] at leftConverts
      cases leftConverts
      exact .inl rfl
    · rw [missing] at rightIs
      cases rightIs
      rw [convertRight_null] at rightConverts
      cases rightConverts
      exact .inr rfl
  rw [combine_of_null steady absent] at combines
  cases combines
  rfl

end BinaryOp

namespace DateFunction

variable {function : DateFunction} {unit first second : Outcome Value}

/-- A call with an argument that is `NULL` has no value other than `NULL`. -/
theorem null_of_missing
    (missing : unit = .ok .null ∨ first = .ok .null ∨ second = .ok .null)
    (evaluates : function.evaluate type unit first second = .ok value) : value = .null := by
  rw [← Value.isNull_iff]
  cases absent : value.isNull with
  | true => rfl
  | false =>
      obtain ⟨named, a, b, ⟨unitIs, unitPresent⟩, ⟨firstIs, firstPresent⟩, secondIs,
        secondPresent⟩ := present_of_evaluate evaluates absent
      rcases missing with missing | missing | missing
      · rw [missing] at unitIs
        cases unitIs
        cases unitPresent
      · rw [missing] at firstIs
        cases firstIs
        cases firstPresent
      · rw [missing] at secondIs
        cases secondIs
        cases secondPresent

theorem combine_of_null {named : TimeUnit} {a b : Value} (absent : a = .null ∨ b = .null) :
    function.combine type named a b = .ok .null := by
  rcases absent with rfl | rfl
  · cases function <;> rfl
  · cases function <;> cases a <;> rfl

/-- The type of a call does not matter where its last argument is nothing but `NULL`. -/
theorem evaluate_of_blank {type' : DataType} (blank : Blank second)
    (evaluates : function.evaluate type unit first second = .ok value) :
    function.evaluate type' unit first second = .ok value := by
  obtain ⟨named, unitIs, absent | ⟨present, parsed, parses, evaluatesIn⟩⟩ :=
    evaluate_eq_ok.mp evaluates
  · exact evaluate_eq_ok.mpr ⟨named, unitIs, .inl absent⟩
  · refine evaluate_eq_ok.mpr ⟨named, unitIs, .inr ⟨present, parsed, parses, ?_⟩⟩
    obtain ⟨a, a', b, b', firstIs, firstConverts, secondIs, secondConverts, combines⟩ :=
      evaluateIn_eq_ok.mp evaluatesIn
    cases blank b secondIs
    rw [Value.convertTo_null] at secondConverts
    cases secondConverts
    rw [combine_of_null (.inr rfl)] at combines
    refine evaluateIn_eq_ok.mpr
      ⟨a, a', .null, .null, firstIs, firstConverts, secondIs, Value.convertTo_null, ?_⟩
    rw [combine_of_null (.inr rfl)]
    exact combines

end DateFunction

end Blank

namespace Resolution

variable {mode : Mode} {context : Context} {op : BinaryOp} {left right operand result : Expr}
  {value : Value}

/-- The negation of `NULL` is `NULL`. -/
theorem null_of_negation (missing : operand.evaluate context = .ok .null)
    (resolves : negation operand = .ok result) : result.evaluate context = .ok .null := by
  have blank : Blank (operand.evaluate context) := by
    intro value valueIs
    rw [missing] at valueIs
    cases valueIs
    rfl
  rw [evaluate_of_negation resolves]
  exact (evaluateNegation_of_blank blank).mpr ⟨missing, rfl⟩

/-- A call on `NULL` is resolved to nothing but `NULL`, if it has a value. -/
theorem null_of_call {function : DateFunction} {unit first second : Expr}
    (missing : unit.evaluate context = .ok .null ∨ first.evaluate context = .ok .null ∨
      second.evaluate context = .ok .null)
    (resolves : call function unit first second = .ok result)
    (evaluates : result.evaluate context = .ok value) : value = .null := by
  obtain ⟨known, knownIs, _⟩ := call_eq_ok resolves
  rw [evaluate_of_call knownIs resolves] at evaluates
  exact DateFunction.null_of_missing missing evaluates

/-- Arithmetic is only planned as a concatenation if it is written on two operands that may be
strings. -/
theorem textual_of_plan {op : ArithOp} {leftType rightType type : DataType}
    (planned : plan mode (.arith op) leftType rightType = .ok (.concat, type)) :
    mode.plusConcatenates = true ∧ leftType.isTextual = true ∧ rightType.isTextual = true := by
  simp only [plan] at planned
  split at planned
  · rename_i untyped
    have rightUntyped : rightType.isUntyped = true := untyped.1 ▸ untyped.2
    split at planned
    · rename_i adds
      exact ⟨adds.2, DataType.isTextual_of_isUntyped untyped.2,
        DataType.isTextual_of_isUntyped rightUntyped⟩
    · cases planned
  · obtain ⟨common, promotes, planned⟩ := bind_eq_ok.mp planned
    split at planned
    · rename_i concatenates
      obtain ⟨string, adds⟩ := Bool.and_eq_true_iff.mp concatenates
      rw [DataType.eq_varchar_of_isString string] at promotes
      exact ⟨adds, DataType.textual_of_promote promotes⟩
    · cases planned

/-- Whether arithmetic on operands of two types is no concatenation that passes over `NULL`. -/
def KeepsNull (mode : Mode) (left right : DataType) : Prop :=
  mode.passesOver = true → left.isTextual = false ∨ right.isTextual = false

/-- Where arithmetic keeps `NULL`, it is a concatenation only under a mode in which `NULL`
absorbs. -/
theorem KeepsNull.nullConcatIsNull {settled : BinaryOp} {arith : ArithOp} {type : DataType}
    {leftType rightType : DataType} (keeps : KeepsNull mode leftType rightType)
    (planned : plan mode (.arith arith) leftType rightType = .ok (settled, type))
    (isConcat : settled = .concat) : mode.nullConcatIsNull = true := by
  subst isConcat
  obtain ⟨adds, leftTextual, rightTextual⟩ := textual_of_plan planned
  cases nulls : mode.nullConcatIsNull with
  | true => rfl
  | false =>
      have passes : mode.passesOver = true := by
        rw [Mode.passesOver, adds, nulls]
        rfl
      rcases keeps passes with leftTyped | rightTyped
      · rw [leftTextual] at leftTyped
        cases leftTyped
      · rw [rightTextual] at rightTyped
        cases rightTyped

/-- The seconds in a number of days that is `NULL` are `NULL`, if they have a value. -/
theorem null_of_daySeconds {days seconds : Expr} (fraction : days.type.isFractional = true)
    (missing : days.evaluate context = .ok .null)
    (scaled : numeric context.mode .multiply .daySeconds days true = .ok seconds)
    (defined : seconds.Defined context) : seconds.evaluate context = .ok .null := by
  obtain ⟨value, evaluates⟩ := defined
  rw [numeric_daySeconds fraction, operation_of_plain (plain_daySeconds fraction)] at scaled
  obtain ⟨⟨settled, type⟩, planned, folds⟩ := bind_eq_ok.mp scaled
  have keeps : KeepsNull context.mode Expr.daySeconds.type days.type := fun _ => .inl rfl
  have folded := evaluates
  rw [evaluate_of_fold folds] at folded
  rw [evaluates, BinaryOp.null_of_evaluate (keeps.nullConcatIsNull planned) (.inr missing) folded]

/-- Arithmetic with an operand that is `NULL` is `NULL`, whatever it is rewritten to. -/
theorem null_of_rewrites {converts : Bool} {arith : ArithOp} (isArith : op = .arith arith)
    (keepsNull : KeepsNull context.mode left.type right.type)
    (rewrites : Rewrites context.mode op left right converts result)
    (missing : left.evaluate context = .ok .null ∨ right.evaluate context = .ok .null)
    (evaluates : result.evaluate context = .ok value) : value = .null := by
  induction rewrites with
  | folds _ planned folded =>
      subst isArith
      cases evaluates
      exact BinaryOp.null_of_evaluate (keepsNull.nullConcatIsNull planned) missing folded
  | settles _ planned _ =>
      subst isArith
      exact BinaryOp.null_of_evaluate (keepsNull.nullConcatIsNull planned) missing evaluates
  | keeps _ | scales _ _ =>
      exact BinaryOp.null_of_evaluate (fun isConcat => by cases isConcat) missing evaluates
  | swaps _ _ ih => exact ih isArith (fun passes => (keepsNull passes).symm) missing.symm evaluates
  | addsDays _ _ calls => exact null_of_call (.inr missing) calls evaluates
  | addsSeconds fraction _ scaled calls =>
      have defined := (defined_of_call rfl calls ⟨value, evaluates⟩).1
      have moved := missing.imp_left (null_of_daySeconds fraction · scaled defined)
      exact null_of_call (.inr moved) calls evaluates
  | subtractsDays _ _ negated calls =>
      have moved := missing.symm.imp_left (null_of_negation · negated)
      exact null_of_call (.inr moved) calls evaluates
  | subtractsSeconds _ fraction scales negated calls =>
      have negatedDefined := (defined_of_call rfl calls ⟨value, evaluates⟩).1
      have defined := defined_of_negation negated negatedDefined
      have moved := missing.symm.imp_left fun daysMissing =>
        null_of_negation (null_of_daySeconds fraction daysMissing scales defined) negated
      exact null_of_call (.inr moved) calls evaluates
  | countsDays _ _ calls => exact null_of_call (.inr missing.symm) calls evaluates

end Resolution

end SqlScalar
