import SqlScalar.Expr.Basic
import SqlScalar.Value.Notation

/-! # Sizes and costs

The precision, scale and display size of a value: those of its own digits, characters or
bytes where the type leaves them open, and those of the type otherwise. An expression has
them before any row is at hand, and with them an estimate of the work of evaluating it.
-/

namespace SqlScalar.Value

/-- The number of digits, characters or bytes of a value. -/
def precision : Value → Int
  | decimal number => number.precision
  | varchar text => text.length
  | varbinary bytes => bytes.length
  | value => value.type.precision

def scale : Value → Int
  | decimal number => number.scale
  | value => value.type.scale

/-- The number of characters reserved for a value. A decimal number has room for a sign
and a point. -/
def displaySize : Value → Int
  | decimal number => clamp32 (number.precision + 2)
  | varchar text => clamp32 text.length
  | varbinary bytes => clamp32 (2 * bytes.length)
  | value => value.type.displaySize

end SqlScalar.Value

namespace SqlScalar.Expr

/-- The cost of an expression: two for each column, one for each operation and aggregate,
and three for each call of a function. -/
def cost : Expr → Int
  | literal _ => 0
  | column _ => 2
  | parameter _ => 0
  | negate operand _ => operand.cost + 1
  | binary _ left right _ _ => left.cost + 1 + right.cost
  | call _ unit first second _ => 3 + (unit.cost + first.cost + second.cost)
  | aggregate _ argument _ _ => 1 + argument.cost

/-- The precision of an expression: the sum of the operands' for a concatenation, and the
larger one for any other operation. -/
def precision : Expr → Int
  | literal value => value.precision
  | negate operand _ => operand.precision
  | binary .concat left right _ _ => clamp64 (left.precision + right.precision)
  | binary (.arith _) left right _ _ => max left.precision right.precision
  | expr => expr.type.precision

/-- The scale of an expression, that of an operation being the larger one of its operands. -/
def scale : Expr → Int
  | literal value => value.scale
  | negate operand _ => operand.scale
  | binary _ left right _ _ => max left.scale right.scale
  | expr => expr.type.scale

/-- The number of characters reserved for the value of an expression: the sum of the
operands' for a concatenation, and the larger one for any other operation. -/
def displaySize : Expr → Int
  | literal value => value.displaySize
  | negate operand _ => operand.displaySize
  | binary .concat left right _ _ => clamp32 (left.displaySize + right.displaySize)
  | binary (.arith _) left right _ _ => max left.displaySize right.displaySize
  | expr => expr.type.displaySize

end SqlScalar.Expr
