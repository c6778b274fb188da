import SqlScalar.Expr.Evaluation

/-! # Aggregation

An aggregate is fed the values of its argument row by row. A failure to add a value to a
sum loses the sum so far, while the value still counts as seen. A row is fed to all
aggregates of an expression from left to right, up to the first failure.
-/

namespace SqlScalar

/-- A value and a failure, if there was one, that did not keep the value from changing. -/
structure Fed (Subject : Type) where
  subject : Subject
  outcome : Outcome Unit

/-- The one of two values that is kept when a candidate arrives: the candidate if it
compares to the current one as wanted, and the current one otherwise. -/
def pick (wanted : Ordering) (current candidate : Value) : Value :=
  if candidate.compare current = some wanted then candidate else current

namespace AggregateKind

/-- The sum after another summand, which is converted to the type of the sum first. -/
def addSummand (type : DataType) (sum : Option Value) (value : Value) : Outcome Value := do
  let value ← value.convertTo type
  match sum with
  | some sum => sum.arith .plus value
  | none => .ok value

/-- What an aggregate accumulates after another value, which is not `NULL`. -/
def accumulate (kind : AggregateKind) (resolved : Option DataType) (sql : String)
    (accumulated : Option Value) (value : Value) : Outcome (Option Value) :=
  match kind with
  | count => .ok none
  | sum => do
      let type ← resolvedType resolved (.unresolvedAggregate sql)
      let total ← addSummand type accumulated value
      .ok (some total)
  | min => .ok (some ((accumulated.map fun current => pick .lt current value).getD value))
  | max => .ok (some ((accumulated.map fun current => pick .gt current value).getD value))

/-- The state of an aggregate after another value. `NULL` changes nothing. -/
def feed (kind : AggregateKind) (resolved : Option DataType) (sql : String)
    (state : AggregateState) (value : Value) : Fed AggregateState :=
  if value.isNull then ⟨state, .ok ()⟩
  else
    match kind.accumulate resolved sql state.accumulated value with
    | .ok accumulated => ⟨⟨state.count + 1, accumulated⟩, .ok ()⟩
    | .error failure => ⟨⟨state.count + 1, none⟩, .error failure⟩

end AggregateKind

namespace Expr

/-- An expression after another row. Each of its aggregates is fed the row, but none that lies in
the argument of another one. -/
def feed (context : Context) : Expr → Fed Expr
  | literal value => ⟨literal value, .ok ()⟩
  | column reference => ⟨column reference, .ok ()⟩
  | parameter index => ⟨parameter index, .ok ()⟩
  | negate operand resolved =>
      let fed := operand.feed context
      ⟨negate fed.subject resolved, fed.outcome⟩
  | binary op left right resolved convertsRight =>
      let fedLeft := left.feed context
      match fedLeft.outcome with
      | .error failure =>
          ⟨binary op fedLeft.subject right resolved convertsRight, .error failure⟩
      | .ok () =>
          let fedRight := right.feed context
          ⟨binary op fedLeft.subject fedRight.subject resolved convertsRight, fedRight.outcome⟩
  | call function unit first second resolved =>
      let fedUnit := unit.feed context
      match fedUnit.outcome with
      | .error failure => ⟨call function fedUnit.subject first second resolved, .error failure⟩
      | .ok () =>
          let fedFirst := first.feed context
          match fedFirst.outcome with
          | .error failure =>
              ⟨call function fedUnit.subject fedFirst.subject second resolved, .error failure⟩
          | .ok () =>
              let fedSecond := second.feed context
              ⟨call function fedUnit.subject fedFirst.subject fedSecond.subject resolved,
                fedSecond.outcome⟩
  | aggregate kind argument resolved state =>
      match argument.evaluate context with
      | .error failure => ⟨aggregate kind argument resolved state, .error failure⟩
      | .ok value =>
          let fed :=
            kind.feed resolved (aggregate kind argument resolved state).sql state value
          ⟨aggregate kind argument resolved fed.subject, fed.outcome⟩

/-- An aggregate before the first row of its group, and any other expression as it is. -/
def reset : Expr → Expr
  | aggregate kind argument resolved _ => aggregate kind argument resolved .start
  | expr => expr

end Expr

end SqlScalar
