import SqlScalar.Proofs.Mentions
import SqlScalar.Proofs.ModeChange
import SqlScalar.Proofs.TypeSoundness

/-! # Rows that conform to their columns

A row conforms to an expression if the columns of the expression hold `NULL` or values of their
declared types in it. On such a row an expression has a value other than `NULL` only if it has a
type once it is resolved, under whichever mode. This takes that aggregates have not picked their
values out of any other expressions.
-/

namespace SqlScalar

open Calendar Resolution

/-- Whether a row has `NULL` or a value of the declared type in each column of an expression. -/
def Expr.Conforms (row : List Value) (expr : Expr) : Prop :=
  ∀ reference ∈ expr.columns, ∀ value, reference.evaluate row = .ok value →
    value.isNull = true ∨ value.type = reference.type

/-- Whether an aggregate is one of its inputs, and so has no type but theirs. -/
def AggregateKind.picks : AggregateKind → Bool
  | min | max => true
  | count | sum => false

/-- An expression has no type unless it is resolved to one. -/
theorem resolvedType_eq_ok {resolved : Option DataType} {misuse : Misuse} {type : DataType} :
    resolvedType resolved misuse = .ok type ↔ resolved = some type := by
  cases resolved with
  | none =>
      constructor
      · intro succeeds; cases succeeds
      · intro same; cases same
  | some other =>
      constructor
      · intro succeeds; cases succeeds; rfl
      · intro same; cases same; rfl

theorem DataType.ne_null_of_typed {type : DataType} (typed : type.isUntyped = false) :
    type ≠ .null := by
  rintro rfl
  cases typed

theorem Value.isNull_of_type {value : Value} (typed : value.type ≠ .null) :
    value.isNull = false := by
  cases value <;> first | rfl | exact absurd rfl typed

theorem Value.type_ne_null {value : Value} (present : value.isNull = false) :
    value.type ≠ .null :=
  DataType.ne_null_of_typed (Value.isUntyped_type present)

/-- A date function without one of its arguments is `NULL`, so a value takes all of them. -/
theorem DateFunction.present_of_evaluate {function : DateFunction} {type : DataType}
    {unit first second : Outcome Value} {value : Value}
    (evaluates : function.evaluate type unit first second = .ok value)
    (present : value.isNull = false) :
    ∃ named a b, (unit = .ok named ∧ named.isNull = false) ∧ (first = .ok a ∧ a.isNull = false) ∧
      second = .ok b ∧ b.isNull = false := by
  obtain ⟨named, unitIs, ⟨_, rfl⟩ | ⟨unitPresent, _, _, evaluates⟩⟩ := evaluate_eq_ok.mp evaluates
  · cases present
  · obtain ⟨a, a', b, b', firstIs, firstConverts, secondIs, secondConverts, combines⟩ :=
      evaluateIn_eq_ok.mp evaluates
    refine ⟨named, a, b, ⟨unitIs, unitPresent⟩, ⟨firstIs, ?_⟩, secondIs, ?_⟩
    · cases a with
      | null =>
          rw [Value.convertTo_null] at firstConverts
          cases firstConverts
          cases function <;> cases combines <;> cases present
      | _ => rfl
    · cases b with
      | null =>
          rw [Value.convertTo_null] at secondConverts
          cases secondConverts
          cases function <;> cases a' <;> cases combines <;> cases present
      | _ => rfl

namespace AggregateKind

variable {kind : AggregateKind} {argument : DataType}

theorem outputType_of_picks (picks : kind.picks = true) :
    kind.outputType argument = .ok argument := by
  cases kind <;> first | rfl | cases picks

/-- Only an aggregate that is one of its inputs is without a type if they are. -/
theorem null_of_outputType (isOutput : kind.outputType argument = .ok .null) :
    kind.picks = true ∧ argument = .null := by
  cases kind with
  | count => cases isOutput
  | sum => cases argument <;> cases isOutput
  | min | max => cases isOutput; exact ⟨rfl, rfl⟩

end AggregateKind

namespace Resolution

variable {mode : Mode} {op : BinaryOp} {left right result : Expr} {converts : Bool}

theorem typed_of_call {function : DateFunction} {unit first second : Expr}
    (resolves : call function unit first second = .ok result)
    (varying : result.isConstant = false) : result.type.isUntyped = false := by
  obtain ⟨known, _, ⟨_, _, _, _, _, _, _, _, rfl⟩ | ⟨_, rfl⟩⟩ := call_eq_ok resolves
  · cases varying
  · exact (admits_callType function known second.type).typed

/-- Whatever an operation becomes has a type, unless it was folded. -/
theorem typed_of_rewrites (rewrites : Rewrites mode op left right converts result)
    (varying : result.isConstant = false) : result.type.isUntyped = false := by
  induction rewrites with
  | folds => cases varying
  | settles _ planned => exact (plan_typed planned).1
  | keeps kept => rcases kept.type_eq with rfl | rfl <;> rfl
  | scales => rfl
  | swaps _ _ ih => exact ih varying
  | addsDays _ _ calls | addsSeconds _ _ _ calls | subtractsDays _ _ _ calls
  | subtractsSeconds _ _ _ _ calls | countsDays _ _ calls => exact typed_of_call calls varying

theorem negationType_ne_null {type : DataType} :
    negationType type ≠ .null ↔ type ≠ .null := by
  cases type <;> simp only [negationType, ne_eq, reduceCtorEq, not_false_eq_true]

end Resolution

/-- An expression that has been resolved to a type has one under any other mode, too. -/
theorem Resolved.typed_again {mode other : Mode} {expr result : Expr}
    (resolved : Resolved other expr) (typed : expr.type ≠ .null)
    (resolves : expr.resolve mode = .ok result) : result.type ≠ .null := by
  have kept := (resolved.resolve_again resolves).1
  induction resolved generalizing result with
  | literal _ | parameter _ => cases resolves; exact typed
  | column isBound =>
      simp only [Expr.resolve, isBound, ↓reduceIte] at resolves
      cases resolves
      exact typed
  | negate operandResolved varying ih =>
      obtain ⟨operand', operandIs, negated⟩ := bind_eq_ok.mp resolves
      have operandKept := (operandResolved.resolve_again operandIs).1
      rw [negation_of_varying (operandKept.trans varying)] at negated
      cases negated
      have operandTyped := ih (negationType_ne_null.mp typed) operandIs operandKept
      exact negationType_ne_null.mpr operandTyped
  | binary _ _ _ _ _ =>
      obtain ⟨left', _, rest⟩ := bind_eq_ok.mp resolves
      obtain ⟨right', _, operates⟩ := bind_eq_ok.mp rest
      exact DataType.ne_null_of_typed (typed_of_rewrites (operation_rewrites operates) kept)
  | call _ _ _ _ _ _ _ _ =>
      obtain ⟨unit', _, rest⟩ := bind_eq_ok.mp resolves
      obtain ⟨first', _, rest⟩ := bind_eq_ok.mp rest
      obtain ⟨second', _, calls⟩ := bind_eq_ok.mp rest
      exact DataType.ne_null_of_typed (typed_of_call calls kept)
  | @aggregate kind argument type state argumentResolved isOutput ih =>
      obtain ⟨argument', argumentIs, rest⟩ := bind_eq_ok.mp resolves
      obtain ⟨type', isOutput', stays⟩ := bind_eq_ok.mp rest
      cases stays
      have argumentKept := (argumentResolved.resolve_again argumentIs).1
      change type ≠ .null at typed
      change type' ≠ .null
      rintro rfl
      obtain ⟨picks, blank'⟩ := AggregateKind.null_of_outputType isOutput'
      refine ih ?_ argumentIs argumentKept blank'
      intro blank
      rw [AggregateKind.outputType_of_picks picks, blank] at isOutput
      cases isOutput
      exact typed rfl

namespace Expr

section Conforms

variable {row : List Value} {left right unit first second : Expr}

theorem conforms_binary {op : BinaryOp} {resolved : Option DataType} {converts : Bool} :
    (binary op left right resolved converts).Conforms row ↔
      left.Conforms row ∧ right.Conforms row := by
  simp only [Conforms, columns, tally, Multiset.mem_add, or_imp, forall_and]

theorem conforms_call {function : DateFunction} {resolved : Option DataType} :
    (call function unit first second resolved).Conforms row ↔
      (unit.Conforms row ∧ first.Conforms row) ∧ second.Conforms row := by
  simp only [Conforms, columns, tally, Multiset.mem_add, or_imp, forall_and]

/-- A row conforms to a column reference just if the column is `NULL` there or of its type. -/
theorem conforms_column {reference : ColumnRef} :
    (column reference).Conforms row ↔ ∀ value, reference.evaluate row = .ok value →
      value.isNull = true ∨ value.type = reference.type := by
  simp only [Conforms, columns, tally, Multiset.mem_singleton, forall_eq]

end Conforms

/-- The expressions that may be other than `NULL`: those with a type once they are resolved,
whether or not they are resolved yet. -/
inductive Fruitful : Expr → Prop
  | settled {mode : Mode} {expr : Expr} (resolved : Resolved mode expr)
      (typed : expr.type ≠ .null) : Fruitful expr
  | call {function : DateFunction} {unit first second : Expr} {resolved : Option DataType}
      (unitFruitful : Fruitful unit) (firstFruitful : Fruitful first)
      (secondFruitful : Fruitful second) :
      Fruitful (.call function unit first second resolved)
  | aggregate {kind : AggregateKind} {argument : Expr} {resolved : Option DataType}
      {state : AggregateState} (argumentFruitful : kind.picks = true → Fruitful argument) :
      Fruitful (.aggregate kind argument resolved state)

/-- Whether negations and operations have a type only where they have been resolved. -/
def GenuineTypes : Expr → Prop
  | literal _ | column _ | parameter _ => True
  | negate operand resolved =>
      operand.GenuineTypes ∧
        (resolved.isSome = true → ∃ mode, Resolved mode (negate operand resolved))
  | binary op left right resolved converts =>
      left.GenuineTypes ∧ right.GenuineTypes ∧
        (resolved.isSome = true → ∃ mode, Resolved mode (binary op left right resolved converts))
  | call _ unit first second _ =>
      unit.GenuineTypes ∧ first.GenuineTypes ∧ second.GenuineTypes
  | aggregate _ argument _ _ => argument.GenuineTypes

/-- Whether the aggregates that have picked a value have a fruitful argument. -/
def PicksFruitful : Expr → Prop
  | literal _ => True
  | column _ | parameter _ => True
  | negate operand _ => operand.PicksFruitful
  | binary _ left right _ _ => left.PicksFruitful ∧ right.PicksFruitful
  | call _ unit first second _ =>
      (unit.PicksFruitful ∧ first.PicksFruitful) ∧ second.PicksFruitful
  | aggregate kind argument _ state =>
      argument.PicksFruitful ∧
        (kind.picks = true → state.accumulated.isSome = true → argument.Fruitful)

theorem composes_picksFruitful : Composes And True PicksFruitful where
  literal _ := rfl
  negate _ _ := rfl
  binary _ _ _ _ _ := rfl
  call _ _ _ _ _ := rfl

variable {mode : Mode} {expr expr' result : Expr}

namespace Fruitful

/-- A fruitful expression has a type once it is resolved. -/
theorem type_of_resolve (fruitful : Fruitful expr) (resolves : expr.resolve mode = .ok result) :
    result.type ≠ .null := by
  induction fruitful generalizing result with
  | settled resolved typed => exact resolved.typed_again typed resolves
  | @call function unit first second _ _ _ _ unitIH firstIH secondIH =>
      obtain ⟨unit', unitIs, rest⟩ := bind_eq_ok.mp resolves
      obtain ⟨first', firstIs, rest⟩ := bind_eq_ok.mp rest
      obtain ⟨second', secondIs, calls⟩ := bind_eq_ok.mp rest
      have unitTyped := unitIH unitIs
      have firstTyped := firstIH firstIs
      have secondTyped := secondIH secondIs
      obtain ⟨known, _, ⟨a, b, c, value, rfl, rfl, rfl, evaluates, rfl⟩ | ⟨_, rfl⟩⟩ :=
        call_eq_ok calls
      · have admits := admits_callType function known (Expr.literal c).type
        have valueType := DateFunction.evaluate_type_of_present (Value.isNull_of_type unitTyped)
          rfl rfl (Value.isNull_of_type firstTyped) (Value.isNull_of_type secondTyped) admits
          evaluates
        change value.type ≠ .null
        rw [valueType]
        exact DataType.ne_null_of_typed admits.typed
      · exact DataType.ne_null_of_typed (admits_callType function known second'.type).typed
  | aggregate _ ih =>
      obtain ⟨argument', argumentIs, rest⟩ := bind_eq_ok.mp resolves
      obtain ⟨type', isOutput, stays⟩ := bind_eq_ok.mp rest
      cases stays
      change type' ≠ .null
      rintro rfl
      obtain ⟨picks, blank⟩ := AggregateKind.null_of_outputType isOutput
      exact ih picks argumentIs blank

theorem typed (fruitful : Fruitful expr) (resolved : Resolved mode expr) : expr.type ≠ .null :=
  fruitful.type_of_resolve resolved.resolve_eq

theorem resolve (fruitful : Fruitful expr) (resolves : expr.resolve mode = .ok result) :
    Fruitful result :=
  .settled (Resolved.of_resolve resolves) (fruitful.type_of_resolve resolves)

end Fruitful

section Evaluate

variable {context : Context} {value : Value}

/-- On a conforming row only a fruitful expression has a value other than `NULL`. -/
theorem fruitful_of_evaluate (genuine : expr.GenuineTypes) (picks : expr.PicksFruitful)
    (conforms : expr.Conforms context.row) (evaluates : expr.evaluate context = .ok value)
    (present : value.isNull = false) : Fruitful expr := by
  induction expr generalizing value with
  | literal held =>
      cases evaluates
      have resolved : Resolved context.mode (literal held) := .literal held
      exact .settled resolved (Value.type_ne_null present)
  | column reference =>
      have bound : reference.binding.isSome = true := ColumnRef.isSome_of_evaluate evaluates
      have resolved : Resolved context.mode (column reference) := .column bound
      refine .settled resolved ?_
      change reference.type ≠ .null
      rcases conforms_column.mp conforms value evaluates with absent | typed
      · rw [present] at absent
        cases absent
      · rw [← typed]
        exact Value.type_ne_null present
  | parameter index =>
      have resolved : Resolved context.mode (parameter index) := .parameter index
      exact .settled resolved nofun
  | negate operand resolved ih =>
      obtain ⟨type, isResolved, negates⟩ := bind_eq_ok.mp evaluates
      obtain ⟨operandGenuine, settled⟩ := genuine
      obtain ⟨mode, nodeResolved⟩ := settled (by rw [resolvedType_eq_ok.mp isResolved]; rfl)
      refine .settled nodeResolved ?_
      cases nodeResolved with
      | negate operandResolved _ =>
          obtain ⟨a, a', operandIs, converts, inverts⟩ := evaluateNegation_eq_ok.mp negates
          have operandPresent : a.isNull = false := by
            cases a with
            | null =>
                rw [Value.convertTo_null] at converts
                cases converts
                cases inverts
                cases present
            | _ => rfl
          have fruitful := ih operandGenuine picks conforms operandIs operandPresent
          exact negationType_ne_null.mpr (fruitful.typed operandResolved)
  | binary op left right resolved converts _ _ =>
      obtain ⟨type, isResolved, _⟩ := bind_eq_ok.mp evaluates
      obtain ⟨mode, nodeResolved⟩ := genuine.2.2 (by rw [resolvedType_eq_ok.mp isResolved]; rfl)
      refine .settled nodeResolved ?_
      cases nodeResolved with
      | binary _ _ stays => exact DataType.ne_null_of_typed stays.typed.1
  | call function unit first second resolved unitIH firstIH secondIH =>
      obtain ⟨type, _, calls⟩ := bind_eq_ok.mp evaluates
      obtain ⟨named, a, b, ⟨unitIs, unitPresent⟩, ⟨firstIs, firstPresent⟩, secondIs,
        secondPresent⟩ := DateFunction.present_of_evaluate calls present
      obtain ⟨unitGenuine, firstGenuine, secondGenuine⟩ := genuine
      obtain ⟨⟨unitPicks, firstPicks⟩, secondPicks⟩ := picks
      obtain ⟨⟨unitConforms, firstConforms⟩, secondConforms⟩ := conforms_call.mp conforms
      exact .call (unitIH unitGenuine unitPicks unitConforms unitIs unitPresent)
        (firstIH firstGenuine firstPicks firstConforms firstIs firstPresent)
        (secondIH secondGenuine secondPicks secondConforms secondIs secondPresent)
  | aggregate kind argument resolved state _ =>
      refine .aggregate fun isPicked => picks.2 isPicked ?_
      cases evaluates
      obtain ⟨count, accumulated⟩ := state
      cases accumulated with
      | some _ => rfl
      | none =>
          cases kind with
          | count | sum => cases isPicked
          | min | max =>
              change true = false at present
              cases present

end Evaluate

end Expr

end SqlScalar
