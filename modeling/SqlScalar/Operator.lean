import SqlScalar.Text.Words

/-! # Operators and functions

The operators of a scalar expression: negation, the one operator with a single operand,
and the binary operators, which are concatenation and the five arithmetic ones. The two
built-in functions are those of date arithmetic: `DATEADD(unit, count, time)` moves an
instant by a number of units, and `DATEDIFF(unit, from, to)` counts the unit boundaries
between two instants.
-/

namespace SqlScalar

/-- The arithmetic operators. -/
inductive ArithOp where
  | plus
  | minus
  | multiply
  | divide
  | modulus
deriving DecidableEq

/-- The operators with two operands. -/
inductive BinaryOp where
  | concat
  | arith (op : ArithOp)
deriving DecidableEq

/-- All operators. -/
inductive Operator where
  | negate
  | binary (op : BinaryOp)
deriving DecidableEq

namespace ArithOp

/-- How an arithmetic operator is written. -/
def token : ArithOp → String
  | plus => "+"
  | minus => "-"
  | multiply => "*"
  | divide => "/"
  | modulus => "%"

/-- The name of an arithmetic operator, as messages show it. -/
def name : ArithOp → String
  | plus => "Plus"
  | minus => "Minus"
  | multiply => "Multiply"
  | divide => "Divide"
  | modulus => "Modulus"

/-- Whether the right operand is a divisor, which must not be zero. -/
def divides : ArithOp → Bool
  | divide | modulus => true
  | _ => false

end ArithOp

namespace BinaryOp

/-- How an operator is written between its operands. -/
def token : BinaryOp → String
  | concat => "||"
  | arith op => op.token

/-- The name of an operator with two operands. -/
def name : BinaryOp → String
  | concat => "Concat"
  | arith op => op.name

end BinaryOp

namespace Operator

/-- All operators, in the order in which they are looked up. -/
def all : List Operator :=
  [.binary .concat, .binary (.arith .plus), .binary (.arith .minus),
    .binary (.arith .multiply), .binary (.arith .divide), .negate,
    .binary (.arith .modulus)]

/-- The spelling of an operator in SQL text. Negation and subtraction share theirs. -/
def token : Operator → String
  | negate => "-"
  | binary op => op.token

/-- The name of an operator. -/
def name : Operator → String
  | negate => "Negate"
  | binary op => op.name

/-- The operator with a name. -/
def ofName? (name : String) : Option Operator :=
  all.find? (fun operator => operator.name == name)

/-- The number of operands an operator takes. -/
def arity : Operator → Nat
  | negate => 1
  | binary _ => 2

def isUnary (operator : Operator) : Bool :=
  operator.arity == 1

end Operator

/-- The functions on instants. -/
inductive DateFunction where
  | dateAdd
  | dateDiff
deriving DecidableEq

namespace DateFunction

/-- Each function takes a unit and two more arguments. -/
def arity : Nat := 3

/-- The name of a function in SQL. -/
def name : DateFunction → String
  | dateAdd => "DATEADD"
  | dateDiff => "DATEDIFF"

/-- The names a date function answers to, all in upper case. -/
def spellings : DateFunction → List String
  | dateAdd => ["DATEADD", "TIMESTAMPADD"]
  | dateDiff => ["DATEDIFF", "TIMESTAMPDIFF"]

/-- The date function that answers to a name, whatever its letter case. -/
def ofName? (name : String) : Option DateFunction :=
  [dateAdd, dateDiff].find? (fun function => function.spellings.contains (Text.upperWord name))

end DateFunction

end SqlScalar
