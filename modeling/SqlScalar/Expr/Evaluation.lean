import SqlScalar.Expr.Sql
import SqlScalar.Mode
import SqlScalar.Value.Arithmetic

/-! # Evaluation

The value of a resolved expression in a context: under a mode, for a row and for values
bound to the parameters. Operands are evaluated from left to right, and each is converted
to the type of the operation before the next one is evaluated, so the first failure in
that order is the one reported.
-/

namespace SqlScalar

open Calendar

/-- What an expression is evaluated in: the flags of a mode, a row and the values of the
parameters. -/
structure Context where
  mode : Mode
  row : List Value
  parameters : List Value

/-- The value of a column in a row, in the place where the column is bound. -/
def ColumnRef.evaluate (reference : ColumnRef) (row : List Value) : Outcome Value :=
  match reference.binding with
  | none => .error (.columnNotFound reference.sql)
  | some binding =>
      match row[binding.slot.index]? with
      | some value => .ok value
      | none => .error (.columnOutOfBounds binding.slot.index row.length)

/-- The concatenation of two values, each a string or `NULL`. Under the mode it is `NULL`
if one of them is, or the other one. -/
def concatenate (mode : Mode) (left right : Value) : Value :=
  if left.isNull then if mode.nullConcatIsNull then .null else right
  else if right.isNull then if mode.nullConcatIsNull then .null else left
  else .varchar (left.display ++ right.display)

namespace BinaryOp

/-- The result of an operation on two values that have been converted to its type. -/
def combine (mode : Mode) (op : BinaryOp) (left right : Value) : Outcome Value :=
  match op with
  | concat => .ok (concatenate mode left right)
  | arith op => if left.isNull || right.isNull then .ok .null else left.arith op right

/-- A right operand converted to a type, unless it is to stay as it is. -/
def convertRight (convertsRight : Bool) (type : DataType) (right : Value) : Outcome Value :=
  if convertsRight then right.convertTo type else .ok right

/-- The value of an operation on two outcomes. Both are converted before they are combined, and
the first failure counts. -/
def evaluate (mode : Mode) (op : BinaryOp) (type : DataType) (convertsRight : Bool)
    (left right : Outcome Value) : Outcome Value := do
  let left ← (← left).convertTo type
  let right ← convertRight convertsRight type (← right)
  op.combine mode left right

end BinaryOp

/-- The negation of an outcome, after its conversion. -/
def evaluateNegation (type : DataType) (operand : Outcome Value) : Outcome Value := do
  let operand ← (← operand).convertTo type
  operand.negate

namespace DateFunction

/-- The type the argument behind the unit is converted to: a number of units, or an
instant. -/
def firstType : DateFunction → DataType
  | dateAdd => .bigint
  | dateDiff => .timestamp

/-- The instant a number of units after another one, converted to a type. -/
def addUnits (type : DataType) (unit : TimeUnit) (count : Int64) (instant : Timestamp) :
    Outcome Value :=
  match unit.add count.toInt instant with
  | some moved => (Value.timestamp moved).convertTo type
  | none => .error (.overflow ((Value.bigint count).display ++ " " ++ unit.name))

/-- The result of a date function on a unit and two values that have been converted to the
types of its arguments. -/
def combine (function : DateFunction) (type : DataType) (unit : TimeUnit)
    (first second : Value) : Outcome Value :=
  match function, first, second with
  | dateAdd, .bigint count, .timestamp instant => addUnits type unit count instant
  | dateDiff, .timestamp start, .timestamp finish =>
      .ok (.bigint (Int64.ofInt (unit.between start finish)))
  | _, _, _ => .ok .null

/-- The result of a date function for a unit on what its other arguments evaluate to. -/
def evaluateIn (function : DateFunction) (type : DataType) (unit : TimeUnit)
    (first second : Outcome Value) : Outcome Value := do
  let first ← (← first).convertTo function.firstType
  let second ← (← second).convertTo .timestamp
  function.combine type unit first second

/-- The result of a date function on what its arguments evaluate to. If the unit is `NULL`
the other arguments do not matter. -/
def evaluate (function : DateFunction) (type : DataType) (unit first second : Outcome Value) :
    Outcome Value := do
  let unit ← unit
  if unit.isNull then .ok .null
  else
    let unit ← TimeUnit.parse unit.display
    function.evaluateIn type unit first second

end DateFunction

/-- What an aggregate has come to. Its count is read as 64 bits, in which it wraps around, and
other aggregates of no values are `NULL`. -/
def AggregateKind.value (kind : AggregateKind) (state : AggregateState) : Value :=
  match kind with
  | count => .bigint (Int64.ofNat state.count)
  | _ => state.accumulated.getD .null

/-- The type an expression was resolved to, or the failure of one that was not. -/
def resolvedType (resolved : Option DataType) (misuse : Misuse) : Outcome DataType :=
  match resolved with
  | some type => .ok type
  | none => .error (.misuse misuse)

namespace Expr

/-- The value of an expression. An operation or call that has not been resolved has none. -/
def evaluate (context : Context) : Expr → Outcome Value
  | literal value => .ok value
  | column reference => reference.evaluate context.row
  | parameter index =>
      match context.parameters[index.toNat]? with
      | some value => .ok value
      | none => .error (.parameterNotSet index.number)
  | negate operand resolved => do
      let type ← resolvedType resolved (.unresolvedOperation (negate operand resolved).sql)
      evaluateNegation type (operand.evaluate context)
  | binary op left right resolved convertsRight => do
      let type ← resolvedType resolved
        (.unresolvedOperation (binary op left right resolved convertsRight).sql)
      op.evaluate context.mode type convertsRight (left.evaluate context)
        (right.evaluate context)
  | call function unit first second resolved => do
      let type ← resolvedType resolved
        (.unresolvedCall (call function unit first second resolved).sql)
      function.evaluate type (unit.evaluate context) (first.evaluate context)
        (second.evaluate context)
  | aggregate kind _ _ state => .ok (kind.value state)

end Expr

end SqlScalar
