import SqlScalar.Table
import SqlScalar.Failure
import SqlScalar.Integer
import SqlScalar.Value.Basic

/-! # Scalar expressions

The tree of a scalar expression. An operation, a call of a date function and an aggregate
have no type of their own until the expression is resolved; a column reference gets its
type from the table it is bound to; a parameter never has one.
-/

namespace SqlScalar

/-- What a column reference is bound to. -/
structure Binding where
  table : String
  slot : Slot
  /-- The nesting level of the query the table belongs to. -/
  level : Nat
deriving DecidableEq

/-- A reference to a column by its name, and to one of a certain table if it is qualified. -/
structure ColumnRef where
  qualifier : Option String
  name : String
  binding : Option Binding
  /-- Whether the table of the reference has been joined already. -/
  evaluatable : Bool
deriving DecidableEq

/-- The aggregate functions. -/
inductive AggregateKind where
  | count
  | sum
  | min
  | max
deriving DecidableEq

/-- What an aggregate has seen of its group. -/
structure AggregateState where
  /-- The number of inputs other than `NULL`. -/
  count : Nat
  accumulated : Option Value
deriving DecidableEq

/-- A scalar expression. An operation or call that has been resolved knows the type of its
values. -/
inductive Expr where
  | literal (value : Value)
  | column (reference : ColumnRef)
  /-- The value bound to a parameter, by its place among the parameters. -/
  | parameter (index : Index)
  | negate (operand : Expr) (resolved : Option DataType)
  /-- An operation on two operands. The right operand is converted to the type of the
  operation unless `convertsRight` is false. -/
  | binary (op : BinaryOp) (left right : Expr) (resolved : Option DataType)
      (convertsRight : Bool)
  | call (function : DateFunction) (unit first second : Expr) (resolved : Option DataType)
  | aggregate (kind : AggregateKind) (argument : Expr) (resolved : Option DataType)
      (state : AggregateState)
deriving DecidableEq

namespace AggregateKind

/-- The aggregate functions, in the order in which they are looked up. -/
def all : List AggregateKind :=
  [count, sum, min, max]

/-- The name of an aggregate function in SQL. -/
def name : AggregateKind → String
  | count => "COUNT"
  | sum => "SUM"
  | min => "MIN"
  | max => "MAX"

/-- The aggregate function with a name. -/
def ofName? (name : String) : Option AggregateKind :=
  all.find? (fun kind => kind.name == name)

/-- The type of an aggregate of arguments of a type. A sum is wider than its summands. -/
def outputType : AggregateKind → DataType → Outcome DataType
  | count, _ => .ok .bigint
  | sum, .integer => .ok .bigint
  | sum, .bigint | sum, .decimal | sum, .unknown | sum, .null => .ok .decimal
  | sum, .real | sum, .double => .ok .double
  | sum, argument => .error (.notSummable argument)
  | min, argument => .ok argument
  | max, argument => .ok argument

end AggregateKind

/-- An aggregate has seen nothing before the first row. -/
def AggregateState.start : AggregateState :=
  ⟨0, none⟩

/-- The type of a column reference, once it is bound. -/
def ColumnRef.type (reference : ColumnRef) : DataType :=
  match reference.binding with
  | some binding => binding.slot.type
  | none => .unknown

namespace Expr

/-- An integer constant. -/
def int (number : Int32) : Expr :=
  literal (.integer number)

/-- A string constant. -/
def string (text : String) : Expr :=
  literal (.varchar text)

/-- A reference to a column by its name alone. -/
def named (name : String) : Expr :=
  column ⟨none, name, none, false⟩

/-- A reference to a column of a table. -/
def qualified (table name : String) : Expr :=
  column ⟨some table, name, none, false⟩

/-- An operation on two operands, not resolved yet. -/
def operation (op : BinaryOp) (left right : Expr) : Expr :=
  binary op left right none true

/-- The concatenation of two operands, not resolved yet. -/
def concat (left right : Expr) : Expr :=
  operation .concat left right

/-- An arithmetic operation on two operands, not resolved yet. -/
def arith (op : ArithOp) (left right : Expr) : Expr :=
  operation (.arith op) left right

/-- The negation of an operand, not resolved yet. -/
def negated (operand : Expr) : Expr :=
  negate operand none

/-- An aggregate of an argument, not resolved yet and before its first row. -/
def aggregated (kind : AggregateKind) (argument : Expr) : Expr :=
  aggregate kind argument none .start

/-- An operator applied to one or two operands, as many as it takes. -/
def ofOperator? (operator : Operator) (left : Expr) (right : Option Expr) : Outcome Expr :=
  match operator, right with
  | .negate, none => .ok (negated left)
  | .binary op, some right => .ok (operation op left right)
  | operator, _ => .error (.misuse (.operandCount operator))

/-- The type of the value of an expression, unknown as long as it is not resolved. -/
def type : Expr → DataType
  | literal value => value.type
  | column reference => reference.type
  | parameter _ => .unknown
  | negate _ resolved => resolved.getD .unknown
  | binary _ _ _ resolved _ => resolved.getD .unknown
  | call _ _ _ _ resolved => resolved.getD .unknown
  | aggregate _ _ resolved _ => resolved.getD .unknown

/-- Whether an expression is a constant. Only resolution makes a constant of an operation. -/
def isConstant : Expr → Bool
  | literal _ => true
  | _ => false

/-- Whether two expressions are the same in every part, with values compared as numbers
are. -/
def same : Expr → Expr → Bool
  | literal left, literal right => left.same right
  | column left, column right => left = right
  | parameter left, parameter right => left = right
  | negate left leftType, negate right rightType => left.same right && leftType = rightType
  | binary op left right resolved converts, binary op' left' right' resolved' converts' =>
      op = op' && left.same left' && right.same right' && resolved = resolved' &&
        converts = converts'
  | call function unit first second resolved, call function' unit' first' second' resolved' =>
      function = function' && unit.same unit' && first.same first' && second.same second' &&
        resolved = resolved'
  | aggregate kind argument resolved state, aggregate kind' argument' resolved' state' =>
      kind = kind' && argument.same argument' && resolved = resolved' &&
        state.count = state'.count &&
        (match state.accumulated, state'.accumulated with
          | none, none => true
          | some left, some right => left.same right
          | _, _ => false)
  | _, _ => false

end Expr

end SqlScalar
