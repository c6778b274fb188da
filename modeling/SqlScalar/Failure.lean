import SqlScalar.DataType
import SqlScalar.Operator

/-! # Failures

Why an expression could not be built, resolved or evaluated, and the message each cause is
reported with.
-/

namespace SqlScalar

/-- Misuse: an expression was built with a wrong number of operands or used before it was
resolved, or a time of day was built from parts that make none. -/
inductive Misuse where
  | operandCount (operator : Operator)
  | unresolvedOperation (sql : String)
  | unresolvedCall (sql : String)
  | unresolvedAggregate (sql : String)
  | noTimeOfDay (nanoseconds : Nat)
deriving DecidableEq

/-- Why an expression could not be built, resolved or evaluated. -/
inductive Failure where
  /-- No rule resolves the operator for operands of these types. -/
  | unsupported (left : DataType) (op : ArithOp) (right : DataType)
  | misuse (cause : Misuse)
  /-- Neither operand says what type the operation has. -/
  | untyped (left right : DataType)
  | conversion (value : String) (target : DataType)
  | overflow (computation : String)
  | divisionByZero (computation : String)
  | invalidOperands (op : ArithOp) (left right : DataType)
  | notNegatable (operand : DataType)
  | notSummable (argument : DataType)
  | unknownFunction (name : String)
  | argumentCount (function : DateFunction) (actual : Nat)
  | invalidUnit (text : String)
  | columnNotFound (name : String)
  | columnOutOfBounds (index rowSize : Nat)
  | parameterNotSet (number : Nat)
deriving DecidableEq

/-- The result of building, resolving or evaluating an expression. -/
abbrev Outcome (Result : Type) := Except Failure Result

/-- What is told about the misuse of an expression. -/
def Misuse.message : Misuse → String
  | operandCount operator =>
      "operator " ++ operator.name ++ " takes " ++ toString operator.arity ++ " operand(s)"
  | unresolvedOperation sql => "operation " ++ sql ++ " evaluated before it was optimized"
  | unresolvedCall sql => "function " ++ sql ++ " evaluated before it was optimized"
  | unresolvedAggregate sql => "aggregate " ++ sql ++ " updated before it was optimized"
  | noTimeOfDay nanoseconds => "invalid time of day: " ++ toString nanoseconds ++ "ns"

namespace Failure

/-- How a type is shown where one could not be found. -/
def placeholder : DataType → String
  | .unknown => "?"
  | type => type.name

def inQuotes (text : String) : String :=
  "\"" ++ text ++ "\""

/-- The message about operands that an operator is not defined on. -/
def invalidOperandsMessage (operator : String) (left : DataType) (right : Option DataType) :
    String :=
  let rightLabel := match right with
    | some type => "Some(" ++ type.label ++ ")"
    | none => "None"
  "Invalid operand types for operator " ++ operator ++ ": left=Some(" ++ left.label ++
    "), right=" ++ rightLabel

/-- The text of a failure, with all that the failure carries. -/
def message : Failure → String
  | unsupported left op right =>
      "Feature not supported: " ++
        inQuotes (left.name ++ " " ++ op.token ++ " " ++ right.name)
  | misuse cause => "Internal error: " ++ cause.message
  | untyped left right =>
      "Unknown data type: " ++ inQuotes (placeholder left ++ ", " ++ placeholder right)
  | conversion value target =>
      "Data conversion error converting " ++ inQuotes value ++ " to " ++ target.name
  | overflow computation => "Numeric value out of range: " ++ inQuotes computation
  | divisionByZero computation => "Division by zero: " ++ inQuotes computation
  | invalidOperands op left right => invalidOperandsMessage op.token left (some right)
  | notNegatable operand => invalidOperandsMessage "-" operand none
  | notSummable argument => invalidOperandsMessage "SUM" argument none
  | unknownFunction name => "Function " ++ inQuotes name ++ " not found"
  | argumentCount function _ =>
      "Invalid parameter count for " ++ inQuotes function.name ++ ", expected count: " ++
        inQuotes (toString DateFunction.arity)
  | invalidUnit text => "Invalid value " ++ inQuotes text ++ " for parameter \"unit\""
  | columnNotFound name => "Column " ++ inQuotes name ++ " not found"
  | columnOutOfBounds index rowSize =>
      "Column index " ++ toString index ++ " out of bounds for row with " ++
        toString rowSize ++ " columns"
  | parameterNotSet number =>
      "Parameter " ++ inQuotes ("#" ++ toString number) ++ " is not set"

end Failure

end SqlScalar
