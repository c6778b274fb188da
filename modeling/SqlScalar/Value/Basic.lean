import SqlScalar.DataType
import SqlScalar.Calendar.Timestamp
import SqlScalar.Decimal.Basic
import SqlScalar.Floating.Basic

/-! # SQL values

A value of one of the SQL types, and the order of values of one type. Values of different
types are not ordered, nor is anything that is no number.
-/

namespace SqlScalar

open Calendar

/-- A value of one of the SQL types. -/
inductive Value where
  | null
  | boolean (truth : Bool)
  | integer (number : Int32)
  | bigint (number : Int64)
  | decimal (number : Decimal)
  | real (number : Floating .single)
  | double (number : Floating .double)
  | varchar (text : String)
  | time (time : TimeOfDay)
  | date (date : Date)
  | timestamp (instant : Timestamp)
  | varbinary (bytes : List UInt8)
deriving DecidableEq

namespace Value

/-- The type of a value. -/
def type : Value → DataType
  | null => .null
  | boolean _ => .boolean
  | integer _ => .integer
  | bigint _ => .bigint
  | decimal _ => .decimal
  | real _ => .real
  | double _ => .double
  | varchar _ => .varchar
  | time _ => .time
  | date _ => .date
  | timestamp _ => .timestamp
  | varbinary _ => .varbinary

/-- Whether a value is `NULL`. -/
def isNull : Value → Bool
  | null => true
  | _ => false

/-- The order of two values of one type. Strings are ordered by code points and bytes by
their numbers, the first difference deciding. -/
def compare : Value → Value → Option Ordering
  | boolean left, boolean right => some (Ord.compare left right)
  | integer left, integer right => some (Ord.compare left.toInt right.toInt)
  | bigint left, bigint right => some (Ord.compare left.toInt right.toInt)
  | decimal left, decimal right => some (left.compare right)
  | real left, real right => left.compare right
  | double left, double right => left.compare right
  | varchar left, varchar right => some (Ord.compare left.toList right.toList)
  | time left, time right => some (left.compare right)
  | date left, date right => some (left.compare right)
  | timestamp left, timestamp right => some (left.compare right)
  | varbinary left, varbinary right => some (Ord.compare left right)
  | _, _ => none

/-- Whether two values are the same to a comparison: numbers by their value, so that what
is no number is not even the same as itself, and all else by identity. -/
def same : Value → Value → Bool
  | decimal left, decimal right => left.compare right = .eq
  | real left, real right => left.compare right = some .eq
  | double left, double right => left.compare right = some .eq
  | left, right => left = right

end Value

end SqlScalar
