import SqlScalar.Proofs.NullOperands

/-! # Operands absorbed by `NULL`

Operations and date functions convert their operands before they look for a `NULL` among them. So a
`NULL` absorbs another operand only if that one can be converted, and otherwise the node fails as
the conversion does. A unit that is `NULL` absorbs everything, as nothing is evaluated after it.
-/

namespace SqlScalar

open Calendar

/-- Whether an outcome is `NULL` if two conversions succeed, and otherwise the failure of one that
does not. -/
structure Absorbs (first second outcome : Outcome Value) : Prop where
  null_iff : outcome = .ok .null ↔ (∃ value, first = .ok value) ∧ ∃ value, second = .ok value
  error_iff (failure : Failure) :
    outcome = .error failure ↔ first = .error failure ∨ second = .error failure

section Absorbs

variable {first second : Outcome Value} {next : Value → Value → Outcome Value}

/-- Two conversions, one of which is that of a `NULL`, are absorbed by a step that takes any `NULL`
to `NULL`. -/
theorem absorbs_of_missing (missing : first = .ok .null ∨ second = .ok .null)
    (strict : ∀ a b, a = .null ∨ b = .null → next a b = .ok .null) :
    Absorbs first second (first >>= fun a => second >>= next a) := by
  have nulls {a b : Value} (firstIs : first = .ok a) (secondIs : second = .ok b) :
      next a b = .ok .null := by
    refine strict a b (missing.imp ?_ ?_)
    · intro isNull
      rw [firstIs] at isNull
      exact Except.ok.inj isNull
    · intro isNull
      rw [secondIs] at isNull
      exact Except.ok.inj isNull
  constructor
  · constructor
    · intro isNull
      obtain ⟨a, firstIs, rest⟩ := bind_eq_ok.mp isNull
      obtain ⟨b, secondIs, _⟩ := bind_eq_ok.mp rest
      exact ⟨⟨a, firstIs⟩, b, secondIs⟩
    · rintro ⟨⟨a, firstIs⟩, b, secondIs⟩
      exact bind_eq_ok.mpr
        ⟨a, firstIs, bind_eq_ok.mpr ⟨b, secondIs, nulls firstIs secondIs⟩⟩
  · intro failure
    constructor
    · intro fails
      rcases bind_eq_error.mp fails with firstFails | ⟨a, firstIs, rest⟩
      · exact .inl firstFails
      · rcases bind_eq_error.mp rest with secondFails | ⟨b, secondIs, combines⟩
        · exact .inr secondFails
        · rw [nulls firstIs secondIs] at combines
          cases combines
    · rintro (firstFails | secondFails)
      · exact bind_eq_error.mpr (.inl firstFails)
      · -- The second conversion fails, so the missing value is the first one.
        have firstIs : first = .ok .null := by
          refine missing.resolve_right fun secondIs => ?_
          rw [secondFails] at secondIs
          cases secondIs
        exact bind_eq_error.mpr (.inr ⟨.null, firstIs, bind_eq_error.mpr (.inl secondFails)⟩)

end Absorbs

section Nodes

variable {context : Context} {type : DataType} {a b named : Value}

namespace BinaryOp

/-- Arithmetic with a `NULL` absorbs its other operand. -/
theorem absorbs_of_null {mode : Mode} {op : ArithOp} {converts : Bool}
    (missing : a = .null ∨ b = .null) :
    Absorbs (a.convertTo type) (convertRight converts type b)
      ((arith op).evaluate mode type converts (.ok a) (.ok b)) := by
  refine absorbs_of_missing ?_ fun _ _ => combine_of_null nofun
  rcases missing with rfl | rfl
  · exact .inl Value.convertTo_null
  · exact .inr convertRight_null

end BinaryOp

namespace DateFunction

variable {function : DateFunction} {unit : TimeUnit} {first second : Outcome Value}

/-- A date function with a `NULL` behind its unit absorbs its other argument. -/
theorem absorbs_of_null (missing : a = .null ∨ b = .null) :
    Absorbs (a.convertTo function.firstType) (b.convertTo .timestamp)
      (function.evaluateIn type unit (.ok a) (.ok b)) := by
  refine absorbs_of_missing ?_ fun _ _ => combine_of_null
  rcases missing with rfl | rfl
  · exact .inl Value.convertTo_null
  · exact .inr Value.convertTo_null

end DateFunction

namespace Expr

variable {left right unit first second : Expr}

theorem evaluate_binary {op : BinaryOp} {converts : Bool} :
    (binary op left right (some type) converts).evaluate context =
      op.evaluate context.mode type converts (left.evaluate context) (right.evaluate context) :=
  rfl

theorem evaluate_call {function : DateFunction} :
    (call function unit first second (some type)).evaluate context =
      function.evaluate type (unit.evaluate context) (first.evaluate context)
        (second.evaluate context) :=
  rfl

end Expr

end Nodes

/-- A node with an operand that is `NULL` is `NULL` or fails as the conversion of its other operand
does, and no node looks behind a unit that is `NULL`. -/
theorem null_absorbs_convertible_operand (context : Context) :
    (∀ (op : ArithOp) (left right : Expr) (type : DataType) (converts : Bool) (a b : Value),
      left.evaluate context = .ok a → right.evaluate context = .ok b → a = .null ∨ b = .null →
      Absorbs (a.convertTo type) (BinaryOp.convertRight converts type b)
        ((Expr.binary (.arith op) left right (some type) converts).evaluate context)) ∧
    (∀ (function : DateFunction) (unit first second : Expr) (type : DataType),
      unit.evaluate context = .ok .null →
      (Expr.call function unit first second (some type)).evaluate context = .ok .null) ∧
    ∀ (function : DateFunction) (unit first second : Expr) (type : DataType) (named a b : Value)
      (known : TimeUnit), unit.evaluate context = .ok named → named ≠ .null →
      TimeUnit.parse named.display = .ok known → first.evaluate context = .ok a →
      second.evaluate context = .ok b → a = .null ∨ b = .null →
      Absorbs (a.convertTo function.firstType) (b.convertTo .timestamp)
        ((Expr.call function unit first second (some type)).evaluate context) := by
  refine ⟨?_, ?_, ?_⟩
  · intro op left right type converts a b leftIs rightIs missing
    rw [Expr.evaluate_binary, leftIs, rightIs]
    exact BinaryOp.absorbs_of_null missing
  · intro function unit first second type unitIs
    rw [Expr.evaluate_call, unitIs]
    rfl
  · intro function unit first second type named a b known unitIs present parses firstIs secondIs
      missing
    have notNull : named.isNull = false := by rwa [← Bool.not_eq_true, Value.isNull_iff]
    rw [Expr.evaluate_call, unitIs, firstIs, secondIs,
      DateFunction.evaluate_of_unit notNull parses]
    exact DateFunction.absorbs_of_null missing

/-- A missing number absorbs a text that is one, and a missing number of days a text that is a
date. -/
theorem null_absorbs_readable_text :
    let number : ColumnRef := ⟨none, "N", some ⟨"T", ⟨0, .integer⟩, 0⟩, true⟩
    let text : ColumnRef := ⟨none, "S", some ⟨"T", ⟨1, .varchar⟩, 0⟩, true⟩
    let context (read : String) : Context := ⟨.regular, [.null, .varchar read], []⟩
    (Expr.binary (.arith .plus) (.column number) (.column text) (some .integer) true).evaluate
        (context "12") = .ok .null ∧
      (Expr.call .dateAdd (.string "day") (.column number) (.column text)
        (some .timestamp)).evaluate (context "1970-01-01") = .ok .null := by
  intro number text context
  obtain ⟨operations, _⟩ := null_absorbs_convertible_operand (context "12")
  obtain ⟨_, _, calls⟩ := null_absorbs_convertible_operand (context "1970-01-01")
  have absorbsNumber := operations .plus (.column number) (.column text) .integer true .null
    (.varchar "12") rfl rfl (.inl rfl)
  have absorbsDate := calls .dateAdd (.string "day") (.column number) (.column text) .timestamp
    (.varchar "day") .null (.varchar "1970-01-01") .day rfl nofun rfl rfl rfl (.inl rfl)
  exact ⟨absorbsNumber.null_iff.mpr ⟨⟨.null, rfl⟩, .integer 12, rfl⟩,
    absorbsDate.null_iff.mpr ⟨⟨.null, rfl⟩, .timestamp ⟨.epoch, .midnight⟩, rfl⟩⟩

/-- A text that is no number fails even next to a missing number, as it is to be converted. -/
theorem not_null_absorbs_unreadable_text :
    ¬ ∀ (context : Context) (expr left right : Expr) (op : ArithOp) (type : DataType)
      (converts : Bool) (a b : Value),
      expr.resolve context.mode = .ok (.binary (.arith op) left right (some type) converts) →
      left.evaluate context = .ok a → right.evaluate context = .ok b → a = .null ∨ b = .null →
      (Expr.binary (.arith op) left right (some type) converts).evaluate context = .ok .null := by
  intro absorbs
  let number : Expr := .column ⟨none, "N", some ⟨"T", ⟨0, .integer⟩, 0⟩, true⟩
  let text : Expr := .column ⟨none, "S", some ⟨"T", ⟨1, .varchar⟩, 0⟩, true⟩
  let sum : Expr := .binary (.arith .plus) number text (some .integer) true
  let context : Context := ⟨.regular, [.null, .varchar "abc"], []⟩
  have fails : sum.evaluate context = .error (.conversion "abc" .integer) := rfl
  have isNull : sum.evaluate context = .ok .null :=
    absorbs context (.arith .plus number text) number text .plus .integer true .null
      (.varchar "abc") rfl rfl rfl (.inl rfl)
  rw [fails] at isNull
  cases isNull

end SqlScalar
