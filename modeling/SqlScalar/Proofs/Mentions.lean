import Mathlib.Algebra.Order.Group.Multiset
import SqlScalar.Expr.Property
import SqlScalar.Proofs.OperationRules

/-! # What an expression mentions

The column references, the parameters and the outermost aggregates of an expression, each as
often as it occurs. Resolution moves operands about, scales and negates them and puts them into
calls, but all it ever folds away is constants. So a resolved expression mentions what the
expression it came from does, and has the same properties.
-/

namespace SqlScalar

open Calendar Resolution

/-- A measure that a constant has nothing of, and that operations and calls have by joining what
their operands have of it. -/
structure Composes {Measure : Type} (join : Measure → Measure → Measure) (nothing : Measure)
    (measure : Expr → Measure) : Prop where
  literal (value : Value) : measure (.literal value) = nothing
  negate (operand : Expr) (resolved : Option DataType) :
    measure (.negate operand resolved) = measure operand
  binary (op : BinaryOp) (left right : Expr) (resolved : Option DataType) (converts : Bool) :
    measure (.binary op left right resolved converts) = join (measure left) (measure right)
  call (function : DateFunction) (unit first second : Expr) (resolved : Option DataType) :
    measure (.call function unit first second resolved) =
      join (join (measure unit) (measure first)) (measure second)

namespace Composes

variable {Measure : Type} {join : Measure → Measure → Measure} {nothing : Measure}
  {measure : Expr → Measure} {mode : Mode} {op : BinaryOp} {left right result : Expr}
  {converts : Bool} [Std.LawfulIdentity join nothing]

section Join

variable (join)

theorem join_nothing (amount : Measure) : join amount nothing = amount :=
  Std.LawfulRightIdentity.right_id amount

theorem nothing_join (amount : Measure) : join nothing amount = amount :=
  Std.LawfulLeftIdentity.left_id amount

end Join

variable (composes : Composes join nothing measure)

include composes

omit [Std.LawfulIdentity join nothing] in
theorem of_negation {operand : Expr} (resolves : negation operand = .ok result) :
    measure result = measure operand := by
  rcases negation_eq_ok resolves with ⟨_, _, rfl, _, rfl⟩ | ⟨_, rfl⟩
  · rw [composes.literal, composes.literal]
  · exact composes.negate _ _

theorem of_call {function : DateFunction} {unit first second : Expr}
    (resolves : Resolution.call function unit first second = .ok result) :
    measure result = join (join (measure unit) (measure first)) (measure second) := by
  obtain ⟨_, _, ⟨_, _, _, _, rfl, rfl, rfl, _, rfl⟩ | ⟨_, rfl⟩⟩ := call_eq_ok resolves
  · simp only [composes.literal, join_nothing join]
  · exact composes.call _ _ _ _ _

/-- The unit of a call that a date rule builds is a constant and does not count. -/
theorem of_built_call {function : DateFunction} {named : Value} {first second : Expr}
    (resolves : Resolution.call function (.literal named) first second = .ok result) :
    measure result = join (measure first) (measure second) := by
  rw [composes.of_call resolves, composes.literal, nothing_join join]

theorem of_daySeconds {days seconds : Expr} (fraction : days.type.isFractional = true)
    (scaled : numeric mode .multiply .daySeconds days true = .ok seconds) :
    measure seconds = measure days := by
  obtain ⟨_, _, _, ⟨_, _, rfl, _, rfl⟩ | ⟨_, rfl⟩⟩ := daySeconds_eq_ok fraction scaled
  · rw [composes.literal, composes.literal]
  · rw [composes.binary, Expr.daySeconds, Expr.int, composes.literal, nothing_join join]

variable [Std.Commutative join]

/-- Whatever an operation on resolved operands becomes has what the operands have together. -/
theorem of_rewrites (rewrites : Rewrites mode op left right converts result) :
    measure result = join (measure left) (measure right) := by
  induction rewrites with
  | folds => simp only [composes.literal, join_nothing join]
  | settles | keeps | scales => exact composes.binary _ _ _ _ _
  | swaps _ _ ih => exact ih.trans (Std.Commutative.comm _ _)
  | addsDays _ _ calls => exact composes.of_built_call calls
  | addsSeconds fraction _ scaled calls =>
      rw [composes.of_built_call calls, composes.of_daySeconds fraction scaled]
  | subtractsDays _ _ negated calls =>
      rw [composes.of_built_call calls, composes.of_negation negated]
      exact Std.Commutative.comm _ _
  | subtractsSeconds _ fraction scales negated calls =>
      rw [composes.of_built_call calls, composes.of_negation negated,
        composes.of_daySeconds fraction scales]
      exact Std.Commutative.comm _ _
  | countsDays _ _ calls =>
      rw [composes.of_built_call calls]
      exact Std.Commutative.comm _ _

/-- Resolution keeps a measure that depends on aggregates only through what their arguments have
of it. -/
theorem of_resolve {expr : Expr}
    (aggregates : ∀ {kind : AggregateKind} {argument argument' : Expr}
      {resolved resolved' : Option DataType} {state : AggregateState},
      measure argument' = measure argument →
        measure (.aggregate kind argument' resolved' state) =
          measure (.aggregate kind argument resolved state))
    (resolves : expr.resolve mode = .ok result) : measure result = measure expr := by
  induction expr generalizing result with
  | literal _ | parameter _ => cases resolves; rfl
  | column reference =>
      simp only [Expr.resolve] at resolves
      split at resolves <;> cases resolves
      rfl
  | negate operand _ ih =>
      obtain ⟨operand', operandIs, negated⟩ := bind_eq_ok.mp resolves
      rw [composes.of_negation negated, ih operandIs, composes.negate]
  | binary op left right _ converts leftIH rightIH =>
      obtain ⟨left', leftIs, rest⟩ := bind_eq_ok.mp resolves
      obtain ⟨right', rightIs, operates⟩ := bind_eq_ok.mp rest
      rw [composes.of_rewrites (operation_rewrites operates), leftIH leftIs, rightIH rightIs,
        composes.binary]
  | call function unit first second _ unitIH firstIH secondIH =>
      obtain ⟨unit', unitIs, rest⟩ := bind_eq_ok.mp resolves
      obtain ⟨first', firstIs, rest⟩ := bind_eq_ok.mp rest
      obtain ⟨second', secondIs, calls⟩ := bind_eq_ok.mp rest
      rw [composes.of_call calls, unitIH unitIs, firstIH firstIs, secondIH secondIs,
        composes.call]
  | aggregate kind argument _ state ih =>
      obtain ⟨argument', argumentIs, rest⟩ := bind_eq_ok.mp resolves
      obtain ⟨type, _, stays⟩ := bind_eq_ok.mp rest
      cases stays
      exact aggregates (ih argumentIs)

end Composes

/-- How the leaves of an expression count, an aggregate with what its argument counts. -/
structure Tally (Item : Type) where
  ofColumn : ColumnRef → Multiset Item
  ofParameter : Index → Multiset Item
  ofAggregate : AggregateKind → AggregateState → Multiset Item → Multiset Item

namespace Expr

/-- What the leaves of an expression count together. -/
def tally {Item : Type} (counting : Tally Item) : Expr → Multiset Item
  | literal _ => 0
  | column reference => counting.ofColumn reference
  | parameter index => counting.ofParameter index
  | negate operand _ => operand.tally counting
  | binary _ left right _ _ => left.tally counting + right.tally counting
  | call _ unit first second _ =>
      unit.tally counting + first.tally counting + second.tally counting
  | aggregate kind argument _ state => counting.ofAggregate kind state (argument.tally counting)

/-- The column references of an expression, those in arguments of aggregates included. -/
def columns : Expr → Multiset ColumnRef :=
  tally ⟨fun reference => {reference}, fun _ => 0, fun _ _ inner => inner⟩

/-- The parameters of an expression, those in arguments of aggregates included. -/
def parameters : Expr → Multiset Index :=
  tally ⟨fun _ => 0, fun index => {index}, fun _ _ inner => inner⟩

/-- The aggregates of an expression that are in no argument of another one, with what they have
seen so far. -/
def outermostAggregates : Expr → Multiset (AggregateKind × AggregateState) :=
  tally ⟨fun _ => 0, fun _ => 0, fun kind state _ => {(kind, state)}⟩

variable {expr result : Expr} {mode : Mode}

theorem composes_tally {Item : Type} (counting : Tally Item) :
    Composes (· + ·) 0 (tally counting) where
  literal _ := rfl
  negate _ _ := rfl
  binary _ _ _ _ _ := rfl
  call _ _ _ _ _ := rfl

/-- Resolving an expression leaves all counts as they are. -/
theorem tally_resolve {Item : Type} (counting : Tally Item)
    (resolves : expr.resolve mode = .ok result) : result.tally counting = expr.tally counting := by
  refine (composes_tally counting).of_resolve ?_ resolves
  intro kind argument argument' _ _ state same
  change counting.ofAggregate kind state (argument'.tally counting) = _
  rw [same]
  rfl

/-- A property of an expression is one of all its column references. -/
theorem has_iff_columns (property : Property) :
    expr.has property = true ↔ ∀ reference ∈ expr.columns, reference.has property = true := by
  unfold columns
  induction expr with
  | literal _ | parameter _ =>
      simp only [has, tally, Multiset.notMem_zero, false_implies, implies_true]
  | column reference => simp only [has, tally, Multiset.mem_singleton, forall_eq]
  | negate _ _ ih => exact ih
  | binary _ _ _ _ _ leftIH rightIH =>
      simp only [has, tally, Bool.and_eq_true, leftIH, rightIH, Multiset.mem_add, or_imp,
        forall_and]
  | call _ _ _ _ _ unitIH firstIH secondIH =>
      simp only [has, tally, Bool.and_eq_true, unitIH, firstIH, secondIH, Multiset.mem_add, or_imp,
        forall_and]
  | aggregate _ _ _ _ ih => exact ih

end Expr

/-- Resolution loses and duplicates no column reference, no parameter and no outermost aggregate,
and with them it changes no property of the expression. -/
theorem resolve_keeps_mentions {mode : Mode} {expr result : Expr}
    (resolves : expr.resolve mode = .ok result) :
    result.columns = expr.columns ∧ result.parameters = expr.parameters ∧
      result.outermostAggregates = expr.outermostAggregates ∧
      ∀ property, result.has property = expr.has property := by
  have columns : result.columns = expr.columns := Expr.tally_resolve _ resolves
  refine ⟨columns, Expr.tally_resolve _ resolves, Expr.tally_resolve _ resolves, ?_⟩
  intro property
  rw [Bool.eq_iff_iff, Expr.has_iff_columns, Expr.has_iff_columns, columns]

/-- A date less a running minimum of days times a parameter is resolved to a date moved by
negated seconds, which mentions the same. -/
theorem mentions_of_moved_date :
    let day : ColumnRef := ⟨none, "D", some ⟨"T", ⟨0, .date⟩, 0⟩, true⟩
    let share : ColumnRef := ⟨none, "N", some ⟨"T", ⟨1, .decimal⟩, 1⟩, false⟩
    let seen : AggregateState := ⟨2, some (.decimal .zero)⟩
    let moved := Expr.arith .minus (.column day)
      (.arith .multiply (.aggregate .min (.column share) none seen) (.parameter 0))
    ∃ result, moved.resolve .regular = .ok result ∧ result.columns = {day, share} ∧
      result.parameters = {0} ∧ result.outermostAggregates = {(.min, seen)} ∧
      result.has (.independent 1) = false := by
  intro day share seen moved
  have kept := fun result (resolves : moved.resolve .regular = .ok result) =>
    resolve_keeps_mentions resolves
  obtain ⟨columns, parameters, aggregates, has⟩ := kept _ rfl
  exact ⟨_, rfl, columns, parameters, aggregates, has (.independent 1)⟩

end SqlScalar
