import SqlScalar.Proofs.Building

/-! # Type soundness

A negation, an operation or a call that resolution leaves in place has a type, and in every
context it is `NULL` or a value of that type, whatever mode, row and parameters it is evaluated
with.
-/

namespace SqlScalar

open Calendar Resolution

/-- Whether an expression is computed from others by an operator or a function. -/
def Expr.isComputed : Expr → Bool
  | negate _ _ | binary _ _ _ _ _ | call _ _ _ _ _ => true
  | _ => false

namespace Resolution

variable {mode : Mode} {op : BinaryOp} {left right : Expr} {type : DataType} {converts : Bool}

/-- An operation that stays has a type, and is a concatenation only as one of strings. -/
theorem Stays.typed (stays : Stays mode op left right type converts) :
    type.isUntyped = false ∧ (op = .concat → type = .varchar) := by
  cases stays with
  | plain _ planned => exact plan_typed planned
  | temporal kept =>
      refine ⟨?_, nofun⟩
      rcases kept.type_eq with rfl | rfl <;> rfl
  | scaled => exact ⟨rfl, nofun⟩

end Resolution

theorem DataType.ne_unknown_of_typed {type : DataType} (typed : type.isUntyped = false) :
    type ≠ .unknown := by
  rintro rfl
  cases typed

variable {mode : Mode} {expr result : Expr}

/-- A computed node of a resolved expression has a type and evaluates to it. -/
theorem Resolved.evaluate_type (resolved : Resolved mode expr) (converts : expr.ConvertsOperands)
    (computed : expr.isComputed = true) :
    expr.type ≠ .unknown ∧ ∀ (context : Context) (value : Value),
      expr.evaluate context = .ok value → value = .null ∨ value.type = expr.type := by
  cases resolved with
  | literal _ | column _ | parameter _ | aggregate _ _ => cases computed
  | @negate operand _ _ =>
      have typed := negationType_ne_unknown operand.type
      exact ⟨typed, fun _ _ evaluates => evaluateNegation_type typed evaluates⟩
  | @binary op left right type flag _ _ stays =>
      obtain ⟨typed, strings⟩ := stays.typed
      have known := DataType.ne_unknown_of_typed typed
      refine ⟨known, fun _ _ evaluates => BinaryOp.evaluate_type known ?_ evaluates⟩
      intro isConcat
      refine ⟨strings isConcat, ?_⟩
      -- Nothing is scaled by a concatenation.
      cases flag with
      | true => rfl
      | false =>
          rcases (converts.2.2 rfl).scaling with scaling | scaling
          · rw [isConcat] at scaling; cases scaling
          · rw [isConcat] at scaling; cases scaling
  | @call function unit first second known _ _ _ _ _ =>
      have admits := admits_callType function known second.type
      refine ⟨DataType.ne_unknown_of_typed admits.typed, fun _ _ evaluates => ?_⟩
      exact DateFunction.evaluate_type admits evaluates

/-- Whatever is built and then resolved evaluates to the type it was resolved to, or to `NULL`. -/
theorem evaluate_type_of_resolve (built : Built expr) (resolves : expr.resolve mode = .ok result)
    (computed : result.isComputed = true) :
    result.type ≠ .unknown ∧ ∀ (context : Context) (value : Value),
      result.evaluate context = .ok value → value = .null ∨ value.type = result.type := by
  have resultBuilt := Built.resolved built resolves
  exact (Resolved.of_resolve resolves).evaluate_type resultBuilt.convertsOperands computed

/-- A parameter divided by two has the type of the two, in whichever context. -/
theorem evaluate_type_of_quotient :
    ∃ result, (Expr.arith .divide (.parameter 0) (.int 2)).resolve .regular = .ok result ∧
      result.isComputed = true ∧ result.type ≠ .unknown ∧
      ∀ (context : Context) (value : Value),
        result.evaluate context = .ok value → value = .null ∨ value.type = result.type :=
  ⟨_, rfl, rfl, evaluate_type_of_resolve
    (.operation (.arith .divide) (.parameter 0) (.literal (.integer 2))) rfl rfl⟩

end SqlScalar
