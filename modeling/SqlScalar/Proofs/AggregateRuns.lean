import Mathlib.Data.List.Forall2
import SqlScalar.Expr.Aggregation
import SqlScalar.Expr.Resolution
import SqlScalar.Proofs.Outcome

/-! # Runs of aggregates

An aggregate that is fed the rows of a group alone counts the values other than `NULL` that its
argument has there, and adds them up or picks one of them. An expression passes every row on to
each of its outermost aggregates once, as if that were alone, and nothing else in it changes. So a
run over all rows comes to an end without a failure just where each aggregate does by itself.
-/

namespace SqlScalar

/-- What has been fed, if nothing failed. -/
def Fed.kept {Subject : Type} (fed : Fed Subject) : Outcome Subject := do
  fed.outcome
  .ok fed.subject

theorem Fed.kept_eq_ok {Subject : Type} {fed : Fed Subject} {result : Subject} :
    fed.kept = .ok result ↔ fed.outcome = .ok () ∧ fed.subject = result := by
  obtain ⟨subject, outcome⟩ := fed
  cases outcome with
  | error failure => exact ⟨nofun, nofun⟩
  | ok _ => exact ⟨fun same => ⟨rfl, Except.ok.inj same⟩, fun kept => congrArg _ kept.2⟩

namespace Value

variable {value : Value} {values : List Value}

/-- The values other than `NULL`. -/
def nonNulls (values : List Value) : List Value :=
  values.filter fun value => !value.isNull

/-- What is left of a list if one value after another is picked or not. -/
def pickAll? (wanted : Ordering) : List Value → Option Value
  | [] => none
  | first :: rest => some (rest.foldl (pick wanted) first)

/-- The sum of a list of values, added up from the front. An empty list has none. -/
def addAll : List Value → Outcome (Option Value)
  | [] => .ok none
  | first :: rest => do
      let sum ← rest.foldlM (fun sum summand => sum.arith .plus summand) first
      .ok (some sum)

/-- A value that is `NULL` is left out. -/
theorem nonNulls_cons_of_isNull (isNull : value.isNull = true) :
    nonNulls (value :: values) = nonNulls values :=
  List.filter_cons_of_neg (by rw [isNull]; exact Bool.false_ne_true)

/-- A value that is not `NULL` is kept. -/
theorem nonNulls_cons_of_present (present : value.isNull = false) :
    nonNulls (value :: values) = value :: nonNulls values :=
  List.filter_cons_of_pos (by rw [present]; rfl)

/-- Adding up goes on from the sum of the first two values. -/
theorem addAll_cons_cons (first second : Value) (rest : List Value) :
    addAll (first :: second :: rest) =
      (first.arith .plus second >>= fun sum => addAll (sum :: rest)) := by
  simp only [addAll, List.foldlM_cons, bind_assoc]

end Value

namespace AggregateKind

/-- What an aggregate has accumulated after some values, none of them `NULL`, from what it held
before them. Counting keeps none of them. A sum adds them up in its type, a minimum or maximum is
picked from them, and what was held goes first. -/
def Accumulates (resolved : Option DataType) (held : Option Value) (values : List Value)
    (after : Option Value) : AggregateKind → Prop
  | count => after = if values = [] then held else none
  | sum => values = [] ∧ after = held ∨ ∃ type summands, resolved = some type ∧
      List.Forall₂ (fun value summand => value.convertTo type = .ok summand) values summands ∧
        Value.addAll (held.toList ++ summands) = .ok after
  | min => after = Value.pickAll? .lt (held.toList ++ values)
  | max => after = Value.pickAll? .gt (held.toList ++ values)

/-- Whether an aggregate that has been fed some values in one state is left in another one: it has
counted the values other than `NULL` and accumulated them. -/
@[mk_iff]
structure Reaches (kind : AggregateKind) (resolved : Option DataType) (before : AggregateState)
    (values : List Value) (reached : AggregateState) : Prop where
  count : reached.count = before.count + (Value.nonNulls values).length
  accumulated :
    kind.Accumulates resolved before.accumulated (Value.nonNulls values) reached.accumulated

variable {kind : AggregateKind} {resolved : Option DataType} {held after : Option Value}
  {value : Value} {values rest : List Value} {before reached : AggregateState}

/-- Without values an aggregate holds what it held. -/
theorem accumulates_nil : kind.Accumulates resolved held [] after ↔ after = held := by
  have picked (wanted : Ordering) : Value.pickAll? wanted (held.toList ++ []) = held := by
    cases held <;> rfl
  cases kind with
  | count => exact Iff.rfl
  | sum =>
      constructor
      · rintro (⟨_, same⟩ | ⟨type, summands, _, converts, adds⟩)
        · exact same
        · cases converts
          cases held <;> cases adds <;> rfl
      · intro same
        exact .inl ⟨rfl, same⟩
  | min =>
      change after = Value.pickAll? .lt (held.toList ++ []) ↔ _
      rw [picked]
  | max =>
      change after = Value.pickAll? .gt (held.toList ++ []) ↔ _
      rw [picked]

/-- A summand is added in the type of the sum to what has been added up before. -/
theorem addSummand_eq_ok {type : DataType} {total : Value} :
    addSummand type held value = .ok total ↔ ∃ summand, value.convertTo type = .ok summand ∧
      Value.addAll (held.toList ++ [summand]) = .ok (some total) := by
  unfold addSummand
  rw [bind_eq_ok]
  refine exists_congr fun summand => and_congr_right fun _ => ?_
  cases held with
  | none =>
      constructor
      · rintro ⟨⟩
        rfl
      · rintro ⟨⟩
        rfl
  | some sum =>
      change _ ↔ Value.addAll [sum, summand] = _
      rw [Value.addAll_cons_cons, bind_eq_ok]
      constructor
      · intro adds
        exact ⟨total, adds, rfl⟩
      · rintro ⟨_, adds, ⟨⟩⟩
        exact adds

/-- A sum goes on from what it comes to with its first summand. -/
theorem addAll_append_cons_eq_ok {summand : Value} {summands : List Value} :
    Value.addAll (held.toList ++ summand :: summands) = .ok after ↔
      ∃ next, Value.addAll (held.toList ++ [summand]) = .ok (some next) ∧
        Value.addAll (next :: summands) = .ok after := by
  cases held with
  | none =>
      constructor
      · intro adds
        exact ⟨summand, rfl, adds⟩
      · rintro ⟨_, ⟨⟩, adds⟩
        exact adds
  | some sum =>
      change Value.addAll (sum :: summand :: summands) = _ ↔
        ∃ next, Value.addAll [sum, summand] = _ ∧ _
      simp only [Value.addAll_cons_cons, bind_eq_ok]
      constructor
      · rintro ⟨next, adds, rest⟩
        exact ⟨next, ⟨next, adds, rfl⟩, rest⟩
      · rintro ⟨next, ⟨_, adds, ⟨⟩⟩, rest⟩
        exact ⟨next, adds, rest⟩

/-- What an aggregate has accumulated after some values is what it has after all but the first from
what it has after that one. -/
theorem accumulates_cons (sql : String) :
    kind.Accumulates resolved held (value :: rest) after ↔
      ∃ next, kind.accumulate resolved sql held value = .ok next ∧
        kind.Accumulates resolved next rest after := by
  -- What is picked from the value held and the next one stands for both in front of the rest.
  have picked (wanted : Ordering) :
      Value.pickAll? wanted (held.toList ++ value :: rest) = Value.pickAll? wanted
        ([(held.map fun current => pick wanted current value).getD value] ++ rest) := by
    cases held <;> rfl
  cases kind with
  | count =>
      constructor
      · rintro ⟨⟩
        exact ⟨none, rfl, (ite_self none).symm⟩
      · rintro ⟨_, ⟨⟩, same⟩
        exact same.trans (ite_self none)
  | sum =>
      constructor
      · rintro (⟨⟨⟩, _⟩ | ⟨type, _, rfl, converts, adds⟩)
        cases converts with
        | cons converted restConverted =>
            obtain ⟨next, addsFirst, addsRest⟩ := addAll_append_cons_eq_ok.mp adds
            have summed := addSummand_eq_ok.mpr ⟨_, converted, addsFirst⟩
            refine ⟨some next, ?_, .inr ⟨type, _, rfl, restConverted, addsRest⟩⟩
            exact bind_eq_ok.mpr ⟨type, rfl, bind_eq_ok.mpr ⟨next, summed, rfl⟩⟩
      · rintro ⟨_, accumulates, goesOn⟩
        obtain ⟨type, typed, rest⟩ := bind_eq_ok.mp accumulates
        obtain ⟨next, summed, same⟩ := bind_eq_ok.mp rest
        obtain ⟨summand, converted, addsFirst⟩ := addSummand_eq_ok.mp summed
        cases same
        cases resolved <;> cases typed
        rcases goesOn with ⟨rfl, rfl⟩ | ⟨_, summands, ⟨⟩, restConverted, addsRest⟩
        · exact .inr ⟨type, [summand], rfl, .cons converted .nil, addsFirst⟩
        · have adds := addAll_append_cons_eq_ok.mpr ⟨next, addsFirst, addsRest⟩
          exact .inr ⟨type, _, rfl, .cons converted restConverted, adds⟩
  | min =>
      constructor
      · rintro ⟨⟩
        exact ⟨_, rfl, picked .lt⟩
      · rintro ⟨_, ⟨⟩, same⟩
        exact same.trans (picked .lt).symm
  | max =>
      constructor
      · rintro ⟨⟩
        exact ⟨_, rfl, picked .gt⟩
      · rintro ⟨_, ⟨⟩, same⟩
        exact same.trans (picked .gt).symm

/-- Accumulating one value after another comes to what the values as a whole do. -/
theorem foldlM_accumulate_eq_ok (sql : String) :
    values.foldlM (kind.accumulate resolved sql) held = .ok after ↔
      kind.Accumulates resolved held values after := by
  induction values generalizing held with
  | nil =>
      rw [accumulates_nil]
      constructor
      · rintro ⟨⟩
        rfl
      · rintro rfl
        rfl
  | cons value rest ih =>
      rw [List.foldlM_cons, bind_eq_ok, accumulates_cons sql]
      simp only [ih]

/-- Without values an aggregate stays in its state. -/
theorem reaches_nil : kind.Reaches resolved before [] reached ↔ reached = before := by
  obtain ⟨count, held⟩ := before
  obtain ⟨reachedCount, after⟩ := reached
  rw [reaches_iff, AggregateState.mk.injEq]
  exact and_congr_right fun _ => accumulates_nil

/-- A value that is `NULL` has no part in the state that is reached. -/
theorem reaches_cons_of_isNull (isNull : value.isNull = true) :
    kind.Reaches resolved before (value :: rest) reached ↔
      kind.Reaches resolved before rest reached := by
  rw [reaches_iff, reaches_iff, Value.nonNulls_cons_of_isNull isNull]

/-- A value that is not `NULL` is counted and accumulated before the others. -/
theorem reaches_cons_of_present (present : value.isNull = false) (sql : String) :
    kind.Reaches resolved before (value :: rest) reached ↔
      ∃ next, kind.accumulate resolved sql before.accumulated value = .ok next ∧
        kind.Reaches resolved ⟨before.count + 1, next⟩ rest reached := by
  have counted : before.count + ((Value.nonNulls rest).length + 1) =
      before.count + 1 + (Value.nonNulls rest).length := by omega
  simp only [reaches_iff, Value.nonNulls_cons_of_present present, List.length_cons, counted,
    accumulates_cons sql]
  constructor
  · rintro ⟨counts, next, accumulates, behind⟩
    exact ⟨next, accumulates, counts, behind⟩
  · rintro ⟨next, accumulates, counts, behind⟩
    exact ⟨counts, next, accumulates, behind⟩

end AggregateKind

namespace Expr

/-- An expression that has been fed one context after another, if it took all of them. -/
def feedAll : List Context → Expr → Outcome Expr
  | [], expr => .ok expr
  | context :: rest, expr => do
      let fed ← (expr.feed context).kept
      fed.feedAll rest

/-- Whether two expressions are the same but for the states of their outermost aggregates, and
each of these aggregates is related to the one in its place. -/
inductive EachAggregate (related : Expr → Expr → Prop) : Expr → Expr → Prop
  | literal (value : Value) : EachAggregate related (.literal value) (.literal value)
  | column (reference : ColumnRef) : EachAggregate related (.column reference) (.column reference)
  | parameter (index : Index) : EachAggregate related (.parameter index) (.parameter index)
  | negate {operand operand' : Expr} {resolved : Option DataType}
      (each : EachAggregate related operand operand') :
      EachAggregate related (.negate operand resolved) (.negate operand' resolved)
  | binary {op : BinaryOp} {left left' right right' : Expr} {resolved : Option DataType}
      {converts : Bool} (leftEach : EachAggregate related left left')
      (rightEach : EachAggregate related right right') :
      EachAggregate related (.binary op left right resolved converts)
        (.binary op left' right' resolved converts)
  | call {function : DateFunction} {unit unit' first first' second second' : Expr}
      {resolved : Option DataType} (unitEach : EachAggregate related unit unit')
      (firstEach : EachAggregate related first first')
      (secondEach : EachAggregate related second second') :
      EachAggregate related (.call function unit first second resolved)
        (.call function unit' first' second' resolved)
  | aggregate {kind : AggregateKind} {argument : Expr} {resolved : Option DataType}
      {state state' : AggregateState}
      (fits : related (.aggregate kind argument resolved state)
        (.aggregate kind argument resolved state')) :
      EachAggregate related (.aggregate kind argument resolved state)
        (.aggregate kind argument resolved state')

namespace EachAggregate

variable {related before behind : Expr → Expr → Prop} {expr result : Expr}

/-- If each aggregate is the one in its place, the expressions are the same, and the other way
round. -/
theorem eq_iff : EachAggregate (· = ·) expr result ↔ expr = result := by
  constructor
  · intro each
    induction each with
    | literal _ | column _ | parameter _ => rfl
    | negate _ ih => rw [ih]
    | binary _ _ leftIH rightIH => rw [leftIH, rightIH]
    | call _ _ _ unitIH firstIH secondIH => rw [unitIH, firstIH, secondIH]
    | aggregate fits => exact fits
  · rintro rfl
    induction expr with
    | literal value => exact .literal value
    | column reference => exact .column reference
    | parameter index => exact .parameter index
    | negate _ _ ih => exact .negate ih
    | binary _ _ _ _ _ leftIH rightIH => exact .binary leftIH rightIH
    | call _ _ _ _ _ unitIH firstIH secondIH => exact .call unitIH firstIH secondIH
    | aggregate _ _ _ _ _ => exact .aggregate rfl

/-- If each aggregate takes one step and then another one, it takes both from the first expression
to the last. -/
theorem trans {middle : Expr} (first : EachAggregate before expr middle)
    (second : EachAggregate behind middle result) :
    EachAggregate (fun a c => ∃ b, before a b ∧ behind b c) expr result := by
  induction first generalizing result with
  | literal _ => cases second; exact .literal _
  | column _ => cases second; exact .column _
  | parameter _ => cases second; exact .parameter _
  | negate _ ih =>
      cases second with
      | negate each => exact .negate (ih each)
  | binary _ _ leftIH rightIH =>
      cases second with
      | binary leftEach rightEach => exact .binary (leftIH leftEach) (rightIH rightEach)
  | call _ _ _ unitIH firstIH secondIH =>
      cases second with
      | call unitEach firstEach secondEach =>
          exact .call (unitIH unitEach) (firstIH firstEach) (secondIH secondEach)
  | aggregate fits =>
      cases second with
      | aggregate goesOn => exact .aggregate ⟨_, fits, goesOn⟩

/-- Two steps of every aggregate are two steps of the expression, if the first one leaves an
aggregate the same but for its state. -/
theorem exists_middle
    (keeps : ∀ {kind argument resolved state changed},
      before (.aggregate kind argument resolved state) changed →
        ∃ state', changed = .aggregate kind argument resolved state')
    (each : EachAggregate (fun a c => ∃ b, before a b ∧ behind b c) expr result) :
    ∃ middle, EachAggregate before expr middle ∧ EachAggregate behind middle result := by
  induction each with
  | literal value => exact ⟨_, .literal value, .literal value⟩
  | column reference => exact ⟨_, .column reference, .column reference⟩
  | parameter index => exact ⟨_, .parameter index, .parameter index⟩
  | negate _ ih =>
      obtain ⟨_, first, second⟩ := ih
      exact ⟨_, .negate first, .negate second⟩
  | binary _ _ leftIH rightIH =>
      obtain ⟨_, leftFirst, leftSecond⟩ := leftIH
      obtain ⟨_, rightFirst, rightSecond⟩ := rightIH
      exact ⟨_, .binary leftFirst rightFirst, .binary leftSecond rightSecond⟩
  | call _ _ _ unitIH firstIH secondIH =>
      obtain ⟨_, unitFirst, unitSecond⟩ := unitIH
      obtain ⟨_, firstFirst, firstSecond⟩ := firstIH
      obtain ⟨_, secondFirst, secondSecond⟩ := secondIH
      exact ⟨_, .call unitFirst firstFirst secondFirst, .call unitSecond firstSecond secondSecond⟩
  | aggregate fits =>
      obtain ⟨changed, first, second⟩ := fits
      obtain ⟨state', rfl⟩ := keeps first
      exact ⟨_, .aggregate first, .aggregate second⟩

end EachAggregate

section Feed

variable {context : Context}

/-- An aggregate that is fed only changes its state. -/
theorem eq_aggregate_of_feed {kind : AggregateKind} {argument : Expr} {resolved : Option DataType}
    {state : AggregateState} {result : Expr}
    (feeds : ((aggregate kind argument resolved state).feed context).kept = .ok result) :
    ∃ state', result = aggregate kind argument resolved state' := by
  obtain ⟨_, rfl⟩ := Fed.kept_eq_ok.mp feeds
  simp only [feed]
  split
  · exact ⟨_, rfl⟩
  · exact ⟨_, rfl⟩

/-- A value that is `NULL` changes nothing. -/
theorem kept_feed_of_null {kind : AggregateKind} {argument : Expr} {resolved : Option DataType}
    {state : AggregateState} {value : Value} (evaluates : argument.evaluate context = .ok value)
    (isNull : value.isNull = true) :
    ((aggregate kind argument resolved state).feed context).kept =
      .ok (aggregate kind argument resolved state) := by
  simp only [feed, evaluates, AggregateKind.feed, isNull, ↓reduceIte]
  rfl

/-- A value that is not `NULL` counts, and is added to what has been accumulated. -/
theorem kept_feed_of_present {kind : AggregateKind} {argument : Expr}
    {resolved : Option DataType} {state : AggregateState} {value : Value}
    (evaluates : argument.evaluate context = .ok value) (present : value.isNull = false) :
    ((aggregate kind argument resolved state).feed context).kept = (do
      let accumulated ← kind.accumulate resolved (aggregate kind argument resolved .start).sql
        state.accumulated value
      .ok (aggregate kind argument resolved ⟨state.count + 1, accumulated⟩)) := by
  have text : (aggregate kind argument resolved state).sql =
      (aggregate kind argument resolved .start).sql := rfl
  simp only [feed, evaluates, AggregateKind.feed, present, text, Bool.false_eq_true, ↓reduceIte]
  cases kind.accumulate resolved _ state.accumulated value with
  | error failure => rfl
  | ok accumulated => rfl

/-- An aggregate takes no row in which its argument has no value. -/
theorem exists_value_of_feed {kind : AggregateKind} {argument : Expr}
    {resolved : Option DataType} {state : AggregateState} {fed : Expr}
    (feeds : ((aggregate kind argument resolved state).feed context).kept = .ok fed) :
    ∃ value, argument.evaluate context = .ok value := by
  cases evaluates : argument.evaluate context with
  | error failure =>
      simp only [feed, evaluates] at feeds
      cases feeds
  | ok value => exact ⟨value, rfl⟩

/-- An expression takes a context if both its operands do. -/
theorem kept_feed_binary {op : BinaryOp} {left right : Expr} {resolved : Option DataType}
    {converts : Bool} :
    ((binary op left right resolved converts).feed context).kept = (do
      let left ← (left.feed context).kept
      let right ← (right.feed context).kept
      .ok (binary op left right resolved converts)) := by
  simp only [feed]
  obtain ⟨left', leftOutcome⟩ := left.feed context
  obtain ⟨right', rightOutcome⟩ := right.feed context
  cases leftOutcome with
  | error failure => rfl
  | ok _ => cases rightOutcome <;> rfl

/-- A call takes a context if all its arguments do. -/
theorem kept_feed_call {function : DateFunction} {unit first second : Expr}
    {resolved : Option DataType} :
    ((call function unit first second resolved).feed context).kept = (do
      let unit ← (unit.feed context).kept
      let first ← (first.feed context).kept
      let second ← (second.feed context).kept
      .ok (call function unit first second resolved)) := by
  simp only [feed]
  obtain ⟨unit', unitOutcome⟩ := unit.feed context
  obtain ⟨first', firstOutcome⟩ := first.feed context
  obtain ⟨second', secondOutcome⟩ := second.feed context
  cases unitOutcome with
  | error failure => rfl
  | ok _ =>
      cases firstOutcome with
      | error failure => rfl
      | ok _ => cases secondOutcome <;> rfl

/-- A negation takes a context if its operand does. -/
theorem kept_feed_negate {operand : Expr} {resolved : Option DataType} :
    ((negate operand resolved).feed context).kept = (do
      let operand ← (operand.feed context).kept
      .ok (negate operand resolved)) := by
  simp only [feed]
  obtain ⟨operand', outcome⟩ := operand.feed context
  cases outcome <;> rfl

/-- An expression takes a context just if each of its outermost aggregates does. -/
theorem kept_feed_eq_ok_iff {expr result : Expr} :
    (expr.feed context).kept = .ok result ↔
      EachAggregate (fun aggregate fed => (aggregate.feed context).kept = .ok fed) expr result := by
  induction expr generalizing result with
  | literal value =>
      constructor
      · intro feeds; cases feeds; exact .literal value
      · intro each; cases each; rfl
  | column reference =>
      constructor
      · intro feeds; cases feeds; exact .column reference
      · intro each; cases each; rfl
  | parameter index =>
      constructor
      · intro feeds; cases feeds; exact .parameter index
      · intro each; cases each; rfl
  | negate operand resolved ih =>
      simp only [kept_feed_negate, bind_eq_ok, ih]
      constructor
      · rintro ⟨_, each, same⟩
        cases same
        exact .negate each
      · intro each
        cases each with
        | negate each => exact ⟨_, each, rfl⟩
  | binary op left right resolved converts leftIH rightIH =>
      simp only [kept_feed_binary, bind_eq_ok, leftIH, rightIH]
      constructor
      · rintro ⟨_, leftEach, _, rightEach, same⟩
        cases same
        exact .binary leftEach rightEach
      · intro each
        cases each with
        | binary leftEach rightEach => exact ⟨_, leftEach, _, rightEach, rfl⟩
  | call function unit first second resolved unitIH firstIH secondIH =>
      simp only [kept_feed_call, bind_eq_ok, unitIH, firstIH, secondIH]
      constructor
      · rintro ⟨_, unitEach, _, firstEach, _, secondEach, same⟩
        cases same
        exact .call unitEach firstEach secondEach
      · intro each
        cases each with
        | call unitEach firstEach secondEach =>
            exact ⟨_, unitEach, _, firstEach, _, secondEach, rfl⟩
  | aggregate kind argument resolved state _ =>
      constructor
      · intro feeds
        obtain ⟨state', rfl⟩ := eq_aggregate_of_feed feeds
        exact .aggregate feeds
      · intro each
        cases each with
        | aggregate fits => exact fits

end Feed

/-- Whether an expression has some values in some contexts, one in each. -/
def HasValues (expr : Expr) : List Context → List Value → Prop :=
  List.Forall₂ fun context value => expr.evaluate context = .ok value

/-- An aggregate that is fed rows alone takes them all just if its argument has a value in each and
these values have it reach some state. That is the state it comes to. -/
theorem feedAll_aggregate_eq_ok_iff {kind : AggregateKind} {argument fed : Expr}
    {resolved : Option DataType} {before : AggregateState} {contexts : List Context} :
    (aggregate kind argument resolved before).feedAll contexts = .ok fed ↔
      ∃ values reached, argument.HasValues contexts values ∧
        kind.Reaches resolved before values reached ∧
          fed = aggregate kind argument resolved reached := by
  -- The state moves on with each row, and what is reached behind the first row from the state after
  -- it is reached from the state before it by all rows.
  induction contexts generalizing before with
  | nil =>
      constructor
      · rintro ⟨⟩
        exact ⟨[], before, .nil, AggregateKind.reaches_nil.mpr rfl, rfl⟩
      · rintro ⟨_, _, ⟨⟩, reaches, rfl⟩
        rw [AggregateKind.reaches_nil.mp reaches]
        rfl
  | cons context rest ih =>
      rw [feedAll, bind_eq_ok]
      constructor
      · rintro ⟨middle, feeds, behind⟩
        obtain ⟨value, evaluates⟩ := exists_value_of_feed feeds
        cases isNull : value.isNull with
        | true =>
            rw [kept_feed_of_null evaluates isNull] at feeds
            cases feeds
            obtain ⟨values, reached, evaluate, reaches, same⟩ := ih.mp behind
            exact ⟨value :: values, reached, .cons evaluates evaluate,
              (AggregateKind.reaches_cons_of_isNull isNull).mpr reaches, same⟩
        | false =>
            rw [kept_feed_of_present evaluates isNull, bind_eq_ok] at feeds
            obtain ⟨next, accumulates, same⟩ := feeds
            cases same
            obtain ⟨values, reached, evaluate, reaches, same⟩ := ih.mp behind
            exact ⟨value :: values, reached, .cons evaluates evaluate,
              (AggregateKind.reaches_cons_of_present isNull _).mpr ⟨next, accumulates, reaches⟩,
              same⟩
      · rintro ⟨_, reached, hasValues, reaches, same⟩
        obtain ⟨value, values, evaluates, evaluate, rfl⟩ :=
          List.forall₂_cons_left_iff.mp hasValues
        cases isNull : value.isNull with
        | true =>
            rw [AggregateKind.reaches_cons_of_isNull isNull] at reaches
            exact ⟨_, kept_feed_of_null evaluates isNull,
              ih.mpr ⟨values, reached, evaluate, reaches, same⟩⟩
        | false =>
            obtain ⟨next, accumulates, reaches⟩ :=
              (AggregateKind.reaches_cons_of_present isNull _).mp reaches
            refine ⟨aggregate kind argument resolved ⟨before.count + 1, next⟩, ?_,
              ih.mpr ⟨values, reached, evaluate, reaches, same⟩⟩
            rw [kept_feed_of_present evaluates isNull, accumulates]
            rfl

/-- An expression takes contexts one after another just if each of its outermost aggregates takes
them alone. -/
theorem feedAll_eq_ok_iff_each {contexts : List Context} {expr result : Expr} :
    expr.feedAll contexts = .ok result ↔
      EachAggregate (fun aggregate fed => aggregate.feedAll contexts = .ok fed) expr result := by
  induction contexts generalizing expr result with
  | nil => simp only [feedAll, Except.ok.injEq, EachAggregate.eq_iff]
  | cons context rest ih =>
      simp only [feedAll, bind_eq_ok]
      constructor
      · rintro ⟨_, first, behind⟩
        exact (kept_feed_eq_ok_iff.mp first).trans (ih.mp behind)
      · intro each
        obtain ⟨middle, first, behind⟩ := each.exists_middle eq_aggregate_of_feed
        exact ⟨middle, kept_feed_eq_ok_iff.mpr first, ih.mpr behind⟩

/-- An expression takes the rows of a group one after another just if each of its outermost
aggregates does when it is fed them alone. What comes out is the expression with these aggregates
in the states they come to alone, and all else as it was. An aggregate alone takes the rows just if
its argument has a value in each of them and the values have it reach some state: it has then
counted each value other than `NULL` once, and has accumulated them in their order. -/
theorem feedAll_eq_ok_iff (contexts : List Context) :
    (∀ expr result : Expr, expr.feedAll contexts = .ok result ↔
      EachAggregate (fun aggregate fed => aggregate.feedAll contexts = .ok fed) expr result) ∧
    ∀ (kind : AggregateKind) (argument : Expr) (resolved : Option DataType)
      (before : AggregateState) (fed : Expr),
      (aggregate kind argument resolved before).feedAll contexts = .ok fed ↔
        ∃ values reached, argument.HasValues contexts values ∧
          kind.Reaches resolved before values reached ∧
            fed = aggregate kind argument resolved reached := by
  constructor
  · intro expr result
    exact feedAll_eq_ok_iff_each
  · intro kind argument resolved before fed
    exact feedAll_aggregate_eq_ok_iff

/-- A sum in the argument of a call, a minimum beside it and a maximum in the other operand of a
concatenation each take the values of their own column in three rows, and leave out `NULL`. -/
theorem feedAll_of_call_in_concatenation :
    let months : ColumnRef := ⟨none, "N", some ⟨"T", ⟨0, .integer⟩, 0⟩, true⟩
    let day : ColumnRef := ⟨none, "D", some ⟨"T", ⟨1, .date⟩, 0⟩, true⟩
    let name : ColumnRef := ⟨none, "S", some ⟨"T", ⟨2, .varchar⟩, 0⟩, true⟩
    let written := concat
      (.call .dateAdd (.string "MONTH") (aggregated .sum (.column months))
        (aggregated .min (.column day)) none)
      (aggregated .max (.column name))
    let whole (total earliest last : AggregateState) : Expr :=
      .binary .concat
        (.call .dateAdd (.string "MONTH")
          (.aggregate .sum (.column months) (some .bigint) total)
          (.aggregate .min (.column day) (some .date) earliest) (some .date))
        (.aggregate .max (.column name) (some .varchar) last) (some .varchar) true
    let later : Value := .date ⟨719200, by decide, by decide⟩
    let contexts : List Context :=
      [⟨.regular, [.integer 3, later, .varchar "b"], []⟩,
        ⟨.regular, [.null, .null, .varchar "a"], []⟩,
        ⟨.regular, [.integer 4, .date .epoch, .null], []⟩]
    written.resolve .regular = .ok (whole .start .start .start) ∧
      (whole .start .start .start).feedAll contexts =
        .ok (whole ⟨2, some (.bigint 7)⟩ ⟨2, some (.date .epoch)⟩ ⟨2, some (.varchar "b")⟩) := by
  intro months day name written whole later contexts
  obtain ⟨runs, alone⟩ := feedAll_eq_ok_iff contexts
  have resolves : written.resolve .regular = .ok (whole .start .start .start) := rfl
  have sumReaches : AggregateKind.sum.Reaches (some .bigint) .start
      [.integer 3, .null, .integer 4] ⟨2, some (.bigint 7)⟩ :=
    ⟨rfl, .inr ⟨.bigint, [.bigint 3, .bigint 4], rfl, .cons rfl (.cons rfl .nil), rfl⟩⟩
  have minReaches : AggregateKind.min.Reaches (some .date) .start
      [later, .null, .date .epoch] ⟨2, some (.date .epoch)⟩ := ⟨rfl, rfl⟩
  have maxReaches : AggregateKind.max.Reaches (some .varchar) .start
      [.varchar "b", .varchar "a", .null] ⟨2, some (.varchar "b")⟩ := ⟨rfl, rfl⟩
  have sumFed := (alone .sum (.column months) _ _ _).mpr
    ⟨_, _, .cons rfl (.cons rfl (.cons rfl .nil)), sumReaches, rfl⟩
  have minFed := (alone .min (.column day) _ _ _).mpr
    ⟨_, _, .cons rfl (.cons rfl (.cons rfl .nil)), minReaches, rfl⟩
  have maxFed := (alone .max (.column name) _ _ _).mpr
    ⟨_, _, .cons rfl (.cons rfl (.cons rfl .nil)), maxReaches, rfl⟩
  refine ⟨resolves, (runs _ _).mpr ?_⟩
  exact .binary (.call (.literal _) (.aggregate sumFed) (.aggregate minFed)) (.aggregate maxFed)

end Expr

end SqlScalar
