import SqlScalar.Proofs.Surroundings

/-! # Constants that are folded to `NULL`

A constant operation that is `NULL` becomes an untyped literal when it is resolved, and a column of
the type the operation had before keeps that type. What surrounds them may fail on one of them and
not on the other, since it is resolved by type. Where neither fails the values are the same, and
where every node around them acts alike neither fails without the other.
-/

namespace SqlScalar

open Calendar Resolution

/-- The type a constant operation is given before it is folded: the one it has on columns that have
the types of its operands. -/
inductive UnfoldedType (mode : Mode) : Expr → DataType → Prop
  | negated {operand : Value} {reference : ColumnRef} {result : Expr}
      (typed : reference.type = operand.type)
      (resolves : (Expr.negated (.column reference)).resolve mode = .ok result) :
      UnfoldedType mode (.negated (.literal operand)) result.type
  | operation {op : BinaryOp} {left right : Value} {leftColumn rightColumn : ColumnRef}
      {result : Expr} (leftTyped : leftColumn.type = left.type)
      (rightTyped : rightColumn.type = right.type)
      (resolves : (Expr.operation op (.column leftColumn) (.column rightColumn)).resolve mode =
        .ok result) :
      UnfoldedType mode (.operation op (.literal left) (.literal right)) result.type

/-- A constant operation of a type that is `NULL` in a context. -/
structure NullConstant (context : Context) (constant : Expr) (type : DataType) : Prop where
  unfolded : UnfoldedType context.mode constant type
  yields : constant.Yields context .null

/-- A column of a type that holds `NULL` in the row of a context. -/
structure NullColumn (context : Context) (reference : ColumnRef) (type : DataType) : Prop where
  typed : reference.type = type
  evaluates : reference.evaluate context.row = .ok .null

namespace Frame

variable {context : Context} {frame : Frame} {inner inner' result result' : Expr}

/-- Whether an aggregate is the same value of the same type around two arguments: it counts them,
has seen nothing, or they are of one type. -/
def KeepsValue (kind : AggregateKind) (state : AggregateState) (inner inner' : Expr) : Prop :=
  kind = .count ∨ state.accumulated = none ∨ inner'.type = inner.type

/-- Whether a node has no other value around a constant that was folded than around an expression
that was not, if it has one around both. -/
def Steady (context : Context) (inner inner' : Expr) : Frame → Prop
  -- A concatenation that passes over `NULL` is the other operand, but a sum with a missing number
  -- is `NULL`.
  | leftOf (.arith _) right =>
      ∀ right', right.resolve context.mode = .ok right' →
        context.mode.passesOver = true → right'.type.isTextual = false
  | rightOf (.arith _) left =>
      ∀ left', left.resolve context.mode = .ok left' →
        context.mode.passesOver = true → left'.type.isTextual = false
  -- A date that is moved by a unit stays a date only if the unit is known when it is resolved.
  | unitOf function _ second =>
      ∀ second', second.resolve context.mode = .ok second' → IgnoresUnit function inner second'
  -- A minimum takes its type from its argument, and what is added to it is computed in that type.
  | aggregate kind state => KeepsValue kind state inner inner'
  | _ => True

/-- Whether a node acts alike on two resolved expressions. -/
def Passes (context : Context) (inner inner' : Expr) : Frame → Prop
  | leftOf op right =>
      ∀ right', right.resolve context.mode = .ok right' →
        ActsAlike context op inner right' inner' right'
  | rightOf op left =>
      ∀ left', left.resolve context.mode = .ok left' →
        ActsAlike context op left' inner left' inner'
  | unitOf function _ second =>
      ∀ second', second.resolve context.mode = .ok second' → IgnoresUnit function inner second'
  | aggregate kind state =>
      KeepsValue kind state inner inner' ∧ ((∃ type, kind.outputType inner.type = .ok type) ↔
        ∃ type, kind.outputType inner'.type = .ok type)
  | _ => True

/-- An aggregate has the value of what it has seen, around any argument that it has a type for. -/
theorem valueOf_settle_aggregate {kind : AggregateKind} {state : AggregateState} {value : Value} :
    valueOf context ((aggregate kind state).settle context.mode inner) = .ok value ↔
      kind.value state = value ∧ ∃ type, kind.outputType inner.type = .ok type := by
  simp only [valueOf, settle, bind_eq_ok]
  constructor
  · rintro ⟨_, ⟨type, typed, settles⟩, evaluates⟩
    cases settles
    cases evaluates
    exact ⟨rfl, type, typed⟩
  · rintro ⟨rfl, type, typed⟩
    exact ⟨_, ⟨type, typed, rfl⟩, rfl⟩

/-- A node that acts alike on parallel expressions has the same value around them. -/
theorem sameValue_settle (parallel : Parallel context inner inner')
    (varying : inner'.isConstant = false) (passes : frame.Passes context inner inner') :
    SameValue (valueOf context (frame.settle context.mode inner))
      (valueOf context (frame.settle context.mode inner')) := by
  cases frame with
  | negate => exact sameValue_negation parallel
  | leftOf op right =>
      exact sameValue_bind fun right' rightIs =>
        sameValue_operation parallel (.refl right') (passes right' rightIs)
  | rightOf op left =>
      exact sameValue_bind fun left' leftIs =>
        sameValue_operation (.refl left') parallel (passes left' leftIs)
  | unitOf function first second =>
      exact sameValue_bind fun first' _ => sameValue_bind fun second' secondIs =>
        sameValue_unit parallel varying (passes second' secondIs)
  | firstOf function unit second =>
      exact sameValue_bind fun unit' _ => sameValue_bind fun second' _ => sameValue_first parallel
  | secondOf function unit first =>
      exact sameValue_bind fun unit' _ => sameValue_bind fun first' _ => sameValue_second parallel
  | aggregate kind state =>
      intro value
      rw [valueOf_settle_aggregate, valueOf_settle_aggregate, passes.2]

/-- An aggregate of the same value is of one type around two arguments, or `NULL`. -/
theorem parallel_of_aggregate {kind : AggregateKind} {state : AggregateState}
    (keeps : KeepsValue kind state inner inner')
    (settles : (aggregate kind state).settle context.mode inner = .ok result)
    (settles' : (aggregate kind state).settle context.mode inner' = .ok result') :
    Parallel context result result' := by
  obtain ⟨type, typed, settled⟩ := bind_eq_ok.mp settles
  obtain ⟨type', typed', settled'⟩ := bind_eq_ok.mp settles'
  cases settled
  cases settled'
  have evaluates (argument : Expr) (outputType : DataType) :
      (Expr.aggregate kind argument (some outputType) state).evaluate context =
        .ok (kind.value state) := rfl
  refine .of_value (evaluates inner type) (evaluates inner' type') ?_
  rcases keeps with rfl | nothing | same
  · cases typed
    cases typed'
    exact .inr rfl
  · cases kind with
    | count =>
        cases typed
        cases typed'
        exact .inr rfl
    | sum | min | max =>
        simp only [AggregateKind.value, nothing]
        exact .inl rfl
  · rw [same, typed] at typed'
    cases typed'
    exact .inr rfl

/-- A node that acts alike on parallel expressions is resolved to parallel ones around them. -/
theorem parallel_settle (parallel : Parallel context inner inner')
    (varying : inner'.isConstant = false) (passes : frame.Passes context inner inner')
    (settles : frame.settle context.mode inner = .ok result)
    (settles' : frame.settle context.mode inner' = .ok result') :
    Parallel context result result' := by
  cases computed : frame.isAggregate with
  | true =>
      cases frame <;> cases computed
      exact parallel_of_aggregate passes.1 settles settles'
  | false =>
      have values := sameValue_settle parallel varying passes
      rw [settles, settles'] at values
      exact .of_faithful values (faithful_settle computed settles)
        (faithful_settle computed settles')

/-- Two expressions with the same outcome that are resolved to parallel ones. -/
structure Corresponds (context : Context) (expr expr' : Expr) : Prop where
  yields : ∀ value, expr.Yields context value ↔ expr'.Yields context value
  parallel : ∀ resolved resolved', expr.resolve context.mode = .ok resolved →
    expr'.resolve context.mode = .ok resolved' →
      Parallel context resolved resolved' ∧ resolved'.isConstant = false

/-- Whether an expression can be resolved. -/
def Resolves (mode : Mode) (expr : Expr) : Prop :=
  ∃ resolved, expr.resolve mode = .ok resolved

/-- Whether a node acts alike on what two expressions are resolved to, and fails if it cannot
evaluate what is in it, or else can resolve both expressions or neither. -/
structure Alike (context : Context) (frame : Frame) (inner inner' : Expr) : Prop where
  passes : ∀ resolved resolved', inner.resolve context.mode = .ok resolved →
    inner'.resolve context.mode = .ok resolved' → frame.Passes context resolved resolved'
  fails : frame.Propagates context.mode ∨
    (Resolves context.mode inner ↔ Resolves context.mode inner')

/-- A node that needs a value of what is in it yields none around what yields none. -/
theorem not_yields_plug {value : Value} (fails : ∀ value, ¬ inner.Yields context value)
    (propagates : frame.Propagates context.mode ∨ ¬ Resolves context.mode inner) :
    ¬ (frame.plug inner).Yields context value := by
  rw [yields_plug]
  rintro ⟨resolved, resolves, isValue⟩
  obtain ⟨result, settles, evaluates⟩ := bind_eq_ok.mp isValue
  rcases propagates with propagates | unresolved
  · obtain ⟨held, isHeld⟩ := defined_of_settle propagates settles ⟨value, evaluates⟩
    exact fails held ⟨resolved, resolves, isHeld⟩
  · exact unresolved ⟨resolved, resolves⟩

/-- A node that acts alike on two corresponding expressions makes corresponding ones of them. -/
theorem Corresponds.plug (corresponds : Corresponds context inner inner')
    (alike : frame.Alike context inner inner') :
    Corresponds context (frame.plug inner) (frame.plug inner') where
  yields value := by
    by_cases both : Resolves context.mode inner ∧ Resolves context.mode inner'
    · obtain ⟨⟨resolved, resolves⟩, resolved', resolves'⟩ := both
      obtain ⟨parallel, varying⟩ := corresponds.parallel resolved resolved' resolves resolves'
      have same := sameValue_settle parallel varying
        (alike.passes resolved resolved' resolves resolves') value
      simp only [yields_plug, resolves, resolves', Except.ok.injEq, exists_eq_left', same]
    · -- What cannot be resolved has no value, and so neither expression has one.
      have fails (value : Value) : ¬ inner.Yields context value := by
        intro yields
        have yields' := (corresponds.yields value).mp yields
        exact both ⟨yields.imp fun _ => And.left, yields'.imp fun _ => And.left⟩
      have fails' (value : Value) : ¬ inner'.Yields context value :=
        fun yields' => fails value ((corresponds.yields value).mpr yields')
      refine iff_of_false (not_yields_plug fails ?_) (not_yields_plug fails' ?_)
      · exact alike.fails.imp_right fun either resolves => both ⟨resolves, either.mp resolves⟩
      · exact alike.fails.imp_right fun either resolves => both ⟨either.mpr resolves, resolves⟩
  parallel result result' resolves resolves' := by
    obtain ⟨resolved, innerIs, settles⟩ := resolve_plug_eq_ok.mp resolves
    obtain ⟨resolved', innerIs', settles'⟩ := resolve_plug_eq_ok.mp resolves'
    obtain ⟨parallel, varying⟩ := corresponds.parallel resolved resolved' innerIs innerIs'
    have passes := alike.passes resolved resolved' innerIs innerIs'
    exact ⟨parallel_settle parallel varying passes settles settles',
      isConstant_of_settle varying settles'⟩

/-- Whether the node is a call whose unit is `NULL`, with another argument missing. -/
def Skips (context : Context) : Frame → Prop
  | firstOf _ unit _ | secondOf _ unit _ =>
      ∃ unit', unit.resolve context.mode = .ok unit' ∧ unit'.evaluate context = .ok .null
  | _ => False

/-- A call that skips its arguments is `NULL` if it has a value. -/
theorem null_of_skips {value : Value} (skips : frame.Skips context)
    (settles : frame.settle context.mode inner = .ok result)
    (evaluates : result.evaluate context = .ok value) : value = .null := by
  cases frame with
  | firstOf function unit _ | secondOf function unit _ =>
      obtain ⟨unit', unitIs, missing⟩ := skips
      simp only [settle, unitIs] at settles
      obtain ⟨_, settledUnit, rest⟩ := bind_eq_ok.mp settles
      obtain ⟨_, _, calls⟩ := bind_eq_ok.mp rest
      cases settledUnit
      exact null_of_call (.inl missing) calls evaluates
  | negate | leftOf _ _ | rightOf _ _ | unitOf _ _ _ | aggregate _ _ => exact skips.elim

/-- A node that has a value looks at what is in it, unless it is an aggregate or a call whose unit
is `NULL`. -/
theorem defined_or_skips {value : Value} (computed : frame.isAggregate = false)
    (settles : frame.settle context.mode inner = .ok result)
    (evaluates : result.evaluate context = .ok value) :
    inner.Defined context ∨ frame.Skips context := by
  cases frame with
  | negate | leftOf _ _ | rightOf _ _ | unitOf _ _ _ =>
      refine .inl (defined_of_settle ?_ settles ⟨value, evaluates⟩)
      trivial
  | firstOf function unit second =>
      obtain ⟨unit', unitIs, rest⟩ := bind_eq_ok.mp settles
      obtain ⟨second', _, calls⟩ := bind_eq_ok.mp rest
      rcases unit_null_or_defined calls evaluates with missing | ⟨defined, _⟩
      · exact .inr ⟨unit', unitIs, missing⟩
      · exact .inl defined
  | secondOf function unit first =>
      obtain ⟨unit', unitIs, rest⟩ := bind_eq_ok.mp settles
      obtain ⟨first', _, calls⟩ := bind_eq_ok.mp rest
      rcases unit_null_or_defined calls evaluates with missing | ⟨_, defined⟩
      · exact .inr ⟨unit', unitIs, missing⟩
      · exact .inl defined
  | aggregate _ _ => cases computed

/-- A node that is steady acts alike on expressions of one type. -/
theorem passes_of_types (steady : frame.Steady context inner inner')
    (same : inner'.type = inner.type) : frame.Passes context inner inner' := by
  cases frame with
  | negate | firstOf _ _ _ | secondOf _ _ _ => trivial
  | leftOf op right => exact fun _ _ => .types same rfl
  | rightOf op left => exact fun _ _ => .types rfl same
  | unitOf function first second => exact steady
  | aggregate kind state => exact ⟨steady, by rw [same]⟩

/-- Around expressions that both are `NULL`, a steady node is `NULL` or acts alike. -/
theorem null_or_passes (computed : frame.isAggregate = false)
    (steady : frame.Steady context inner inner') :
    (∀ {operand result : Expr} {value : Value}, operand.evaluate context = .ok .null →
      frame.settle context.mode operand = .ok result → result.evaluate context = .ok value →
        value = .null) ∨ frame.Passes context inner inner' := by
  cases frame with
  | negate | firstOf _ _ _ | secondOf _ _ _ => exact .inr trivial
  | unitOf _ _ _ => exact .inr steady
  | aggregate _ _ => cases computed
  | leftOf op right =>
      cases op with
      | concat => exact .inr fun _ _ => .plans (.inl rfl) (.inl rfl) rfl
      | arith op =>
          refine .inl fun missing settles evaluates => ?_
          obtain ⟨right', rightIs, operates⟩ := bind_eq_ok.mp settles
          exact null_of_rewrites rfl (fun passes => .inr (steady right' rightIs passes))
            (operation_rewrites operates) (.inl missing) evaluates
  | rightOf op left =>
      cases op with
      | concat => exact .inr fun _ _ => .plans (.inl rfl) (.inl rfl) rfl
      | arith op =>
          refine .inl fun missing settles evaluates => ?_
          obtain ⟨left', leftIs, operates⟩ := bind_eq_ok.mp settles
          exact null_of_rewrites rfl (fun passes => .inl (steady left' leftIs passes))
            (operation_rewrites operates) (.inr missing) evaluates

/-- Two resolved expressions that have the same value if both have one, and one type unless it is
`NULL`. -/
structure Consistent (context : Context) (expr expr' : Expr) : Prop where
  value_eq : ∀ {value value' : Value}, expr.evaluate context = .ok value →
    expr'.evaluate context = .ok value' → value = value'
  types : ∀ {value : Value}, expr.evaluate context = .ok value →
    expr'.evaluate context = .ok value → value = .null ∨ expr'.type = expr.type
  varying : expr'.isConstant = false

/-- Parallel expressions are consistent if the second one is no constant. -/
theorem consistent_of_parallel (parallel : Parallel context inner inner')
    (varying : inner'.isConstant = false) : Consistent context inner inner' where
  value_eq evaluates evaluates' := by
    rw [(parallel.values _).mp evaluates] at evaluates'
    cases evaluates'
    rfl
  types evaluates _ := (parallel.types.imp_right fun blank => blank _ evaluates).symm
  varying := varying

/-- A node that passes on two parallel expressions has one value around both, if it has any. -/
theorem eq_of_passes {value value' : Value} (parallel : Parallel context inner inner')
    (varying : inner'.isConstant = false) (passes : frame.Passes context inner inner')
    (settles : frame.settle context.mode inner = .ok result)
    (settles' : frame.settle context.mode inner' = .ok result')
    (evaluates : result.evaluate context = .ok value)
    (evaluates' : result'.evaluate context = .ok value') : value = value' := by
  have same := sameValue_settle parallel varying passes value
  rw [settles, settles'] at same
  have evaluatesSame : result'.evaluate context = .ok value := same.mp evaluates
  rw [evaluates'] at evaluatesSame
  cases evaluatesSame
  rfl

/-- A steady node has one value around consistent expressions, if it has one around both. -/
theorem Consistent.eq_of_settle {value value' : Value}
    (consistent : Consistent context inner inner') (steady : frame.Steady context inner inner')
    (settles : frame.settle context.mode inner = .ok result)
    (settles' : frame.settle context.mode inner' = .ok result')
    (evaluates : result.evaluate context = .ok value)
    (evaluates' : result'.evaluate context = .ok value') : value = value' := by
  cases computed : frame.isAggregate with
  | true =>
      cases frame <;> cases computed
      obtain ⟨_, _, settled⟩ := bind_eq_ok.mp settles
      obtain ⟨_, _, settled'⟩ := bind_eq_ok.mp settles'
      cases settled
      cases settled'
      cases evaluates
      cases evaluates'
      rfl
  | false =>
      -- A call whose unit is `NULL` is `NULL`, and any other node has looked at what is in it. If
      -- that is one value around both, the expressions are parallel.
      have nulls (skips : frame.Skips context) : value = value' :=
        (null_of_skips skips settles evaluates).trans
          (null_of_skips skips settles' evaluates').symm
      rcases defined_or_skips computed settles evaluates with ⟨held, isHeld⟩ | skips
      · rcases defined_or_skips computed settles' evaluates' with ⟨held', isHeld'⟩ | skips
        · cases consistent.value_eq isHeld isHeld'
          have types := consistent.types isHeld isHeld'
          have parallel : Parallel context inner inner' := .of_value isHeld isHeld' types
          have passed (passes : frame.Passes context inner inner') : value = value' :=
            eq_of_passes parallel consistent.varying passes settles settles' evaluates evaluates'
          rcases types with rfl | same
          · rcases null_or_passes computed steady with null | passes
            · exact (null isHeld settles evaluates).trans (null isHeld' settles' evaluates').symm
            · exact passed passes
          · exact passed (passes_of_types steady same)
        · exact nulls skips
      · exact nulls skips

/-- A steady node is resolved to consistent expressions around consistent ones. -/
theorem Consistent.settle (consistent : Consistent context inner inner')
    (steady : frame.Steady context inner inner')
    (settles : frame.settle context.mode inner = .ok result)
    (settles' : frame.settle context.mode inner' = .ok result') :
    Consistent context result result' where
  value_eq := consistent.eq_of_settle steady settles settles'
  varying := isConstant_of_settle consistent.varying settles'
  types evaluates evaluates' := by
    cases computed : frame.isAggregate with
    | true =>
        cases frame <;> cases computed
        exact ((parallel_of_aggregate steady settles settles').types.imp_right
          fun blank => blank _ evaluates).symm
    | false =>
        rcases faithful_settle computed settles _ evaluates with absent | typed
        · exact .inl absent
        · refine (faithful_settle computed settles' _ evaluates').imp_right fun typed' => ?_
          exact typed'.symm.trans typed

/-- Whether a node is steady around what two expressions are resolved to. -/
def SteadyAround (context : Context) (frame : Frame) (inner inner' : Expr) : Prop :=
  ∀ resolved resolved', inner.resolve context.mode = .ok resolved →
    inner'.resolve context.mode = .ok resolved' → frame.Steady context resolved resolved'

/-- Whether two expressions are resolved to consistent ones, if they are resolved. -/
def ConsistentOnceResolved (context : Context) (inner inner' : Expr) : Prop :=
  ∀ resolved resolved', inner.resolve context.mode = .ok resolved →
    inner'.resolve context.mode = .ok resolved' → Consistent context resolved resolved'

/-- A steady node carries it outwards that two expressions are resolved to consistent ones. -/
theorem ConsistentOnceResolved.plug (consistent : ConsistentOnceResolved context inner inner')
    (steady : frame.SteadyAround context inner inner') :
    ConsistentOnceResolved context (frame.plug inner) (frame.plug inner') := by
  intro result result' resolves resolves'
  obtain ⟨resolved, innerIs, settles⟩ := resolve_plug_eq_ok.mp resolves
  obtain ⟨resolved', innerIs', settles'⟩ := resolve_plug_eq_ok.mp resolves'
  exact (consistent resolved resolved' innerIs innerIs').settle
    (steady resolved resolved' innerIs innerIs') settles settles'

end Frame

section Null

variable {context : Context} {constant : Expr} {type : DataType} {reference : ColumnRef}

/-- A constant that is `NULL` and a column that holds it are resolved to parallel expressions. -/
theorem parallel_of_null {resolved resolved' : Expr} (isNull : NullConstant context constant type)
    (holdsNull : NullColumn context reference type)
    (resolves : constant.resolve context.mode = .ok resolved)
    (resolves' : (Expr.column reference).resolve context.mode = .ok resolved') :
    Parallel context resolved resolved' ∧ resolved'.isConstant = false := by
  obtain ⟨_, resolvesNull, evaluates⟩ := isNull.yields
  rw [resolves] at resolvesNull
  cases resolvesNull
  rw [Expr.resolve_column holdsNull.evaluates] at resolves'
  cases resolves'
  exact ⟨.of_value evaluates holdsNull.evaluates (.inl rfl), rfl⟩

/-- A constant that is `NULL` corresponds to a column that holds it. -/
theorem corresponds_of_null (isNull : NullConstant context constant type)
    (holdsNull : NullColumn context reference type) :
    Frame.Corresponds context constant (.column reference) where
  yields value := by
    obtain ⟨resolved, resolves, evaluates⟩ := isNull.yields
    have resolves' : (Expr.column reference).resolve context.mode = .ok (.column reference) :=
      Expr.resolve_column holdsNull.evaluates
    obtain ⟨parallel, _⟩ := parallel_of_null isNull holdsNull resolves resolves'
    simp only [Expr.Yields, resolves, resolves', Except.ok.injEq, exists_eq_left']
    exact parallel.values value
  parallel _ _ := parallel_of_null isNull holdsNull

/-- A constant that is `NULL` and a column that holds it are consistent, once they are resolved. -/
theorem consistent_of_null (isNull : NullConstant context constant type)
    (holdsNull : NullColumn context reference type) :
    Frame.ConsistentOnceResolved context constant (.column reference) := by
  intro resolved resolved' resolves resolves'
  obtain ⟨parallel, varying⟩ := parallel_of_null isNull holdsNull resolves resolves'
  exact Frame.consistent_of_parallel parallel varying

end Null

/-- The sum of `NULL` and 1 is a constant of type `INTEGER` that is `NULL`. -/
theorem nullConstant_sum (product : Product) (row parameters : List Value) :
    NullConstant ⟨.ofProduct product, row, parameters⟩ (.arith .plus (.literal .null) (.int 1))
      .integer where
  unfolded := by
    let absent : ColumnRef := ⟨none, "A", some ⟨"T", ⟨0, .null⟩, 0⟩, true⟩
    let number : ColumnRef := ⟨none, "B", some ⟨"T", ⟨1, .integer⟩, 0⟩, true⟩
    have resolves : (Expr.operation (.arith .plus) (.column absent) (.column number)).resolve
        (.ofProduct product) =
          .ok (.binary (.arith .plus) (.column absent) (.column number) (some .integer) true) := rfl
    have absentType : absent.type = Value.null.type := rfl
    have numberType : number.type = (Value.integer 1).type := rfl
    exact .operation absentType numberType resolves
  yields := ⟨_, rfl, rfl⟩

/-- Whatever surrounds a constant that is `NULL` has the same value around a column of its type
that holds `NULL`, if it has one around both and the nodes are steady; and it has the same outcome
if the nodes act alike. -/
theorem surround_null_constant {context : Context} {constant : Expr} {type : DataType}
    {reference : ColumnRef} (isNull : NullConstant context constant type)
    (holdsNull : NullColumn context reference type) (surroundings : List Frame) :
    (Frame.Throughout (Frame.SteadyAround context) constant (.column reference) surroundings →
      ∀ value value', (Frame.surround constant surroundings).Yields context value →
        (Frame.surround (.column reference) surroundings).Yields context value' →
          value = value') ∧
    (Frame.Throughout (Frame.Alike context) constant (.column reference) surroundings →
      ∀ value, (Frame.surround constant surroundings).Yields context value ↔
        (Frame.surround (.column reference) surroundings).Yields context value) := by
  constructor
  · rintro steady value value' ⟨result, resolves, evaluates⟩ ⟨result', resolves', evaluates'⟩
    have consistent := steady.carries (fun _ _ _ steady consistent => consistent.plug steady)
      (consistent_of_null isNull holdsNull)
    exact (consistent result result' resolves resolves').value_eq evaluates evaluates'
  · intro alike
    have corresponds := alike.carries (fun _ _ _ alike corresponds => corresponds.plug alike)
      (corresponds_of_null isNull holdsNull)
    exact corresponds.yields

/-- The sum of `NULL` and 1 stands for a missing number in a labelled sum, where concatenation
passes over what is missing. -/
theorem surround_null_sum :
    let missing : ColumnRef := ⟨none, "N", some ⟨"T", ⟨0, .integer⟩, 0⟩, true⟩
    let large : ColumnRef := ⟨none, "B", some ⟨"T", ⟨1, .bigint⟩, 0⟩, true⟩
    let constant : Expr := .arith .plus (.literal .null) (.int 1)
    let surroundings : List Frame :=
      [.leftOf (.arith .plus) (.column large), .leftOf .concat (.string "x")]
    let context : Context := ⟨.ofProduct .mySql, [.null, .bigint 5], []⟩
    NullConstant context constant .integer ∧ NullColumn context missing .integer ∧
      Frame.Throughout (Frame.SteadyAround context) constant (.column missing) surroundings ∧
      Frame.Throughout (Frame.Alike context) constant (.column missing) surroundings ∧
      (Frame.surround (.column missing) surroundings).Yields context (.varchar "x") ∧
      ∀ value, (Frame.surround constant surroundings).Yields context value →
        value = .varchar "x" := by
  intro missing large constant surroundings context
  have isNull : NullConstant context constant .integer :=
    nullConstant_sum .mySql [.null, .bigint 5] []
  have holdsNull : NullColumn context missing .integer := ⟨rfl, rfl⟩
  have steady :
      Frame.Throughout (Frame.SteadyAround context) constant (.column missing) surroundings := by
    refine ⟨fun _ _ _ _ _ _ passes => ?_, fun _ _ _ _ => trivial, trivial⟩
    cases passes
  have alike : Frame.Throughout (Frame.Alike context) constant (.column missing) surroundings := by
    refine ⟨⟨?_, .inl trivial⟩, ⟨?_, .inl trivial⟩, trivial⟩
    · intro resolved resolved' resolves resolves'
      cases resolves
      cases resolves'
      intro right' rightIs
      cases rightIs
      exact .plans (.inr ⟨rfl, rfl⟩) (.inr ⟨rfl, rfl⟩) rfl
    · intro _ _ _ _ _ _
      exact .plans (.inl rfl) (.inl rfl) rfl
  have yields : (Frame.surround constant surroundings).Yields context (.varchar "x") :=
    ⟨_, rfl, rfl⟩
  obtain ⟨same, transfers⟩ := surround_null_constant isNull holdsNull surroundings
  have yields' := (transfers alike (.varchar "x")).mp yields
  exact ⟨isNull, holdsNull, steady, alike, yields', fun value isValue =>
    same steady value (.varchar "x") isValue yields'⟩

/-- A date is moved by a missing number of days, but not by the sum of `NULL` and 1, which has no
type any more once it is folded. -/
theorem not_surround_null_before_date :
    ¬ ∀ (context : Context) (constant : Expr) (type : DataType) (reference : ColumnRef)
      (surroundings : List Frame), NullConstant context constant type →
      NullColumn context reference type →
      ∀ value, (Frame.surround constant surroundings).Yields context value ↔
        (Frame.surround (.column reference) surroundings).Yields context value := by
  intro same
  let missing : ColumnRef := ⟨none, "I", some ⟨"T", ⟨1, .integer⟩, 0⟩, true⟩
  let date : ColumnRef := ⟨none, "D", some ⟨"T", ⟨0, .date⟩, 0⟩, true⟩
  let context : Context := ⟨.regular, [.date .epoch, .null], []⟩
  let surroundings : List Frame := [.leftOf (.arith .plus) (.column date)]
  have isNull := nullConstant_sum .regular [.date .epoch, .null] []
  have holdsNull : NullColumn context missing .integer := ⟨rfl, rfl⟩
  have yields : (Frame.surround (.column missing) surroundings).Yields context .null :=
    ⟨_, rfl, rfl⟩
  obtain ⟨_, resolves, _⟩ :=
    (same context _ .integer missing surroundings isNull holdsNull .null).mpr yields
  cases resolves

end SqlScalar
