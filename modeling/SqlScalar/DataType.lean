/-! # SQL data types

The types a scalar expression can have, their names and default sizes, and the rank by
which one of two types is preferred. `unknown` is the type of a parameter no value has
been bound to, `null` the type of a bare `NULL`.
-/

namespace SqlScalar

/-- The types of expressions and values. A parameter is of unknown type, and `NULL` of its own. -/
inductive DataType where
  | unknown
  | null
  | varchar
  | boolean
  | integer
  | bigint
  | decimal
  | real
  | double
  | time
  | date
  | timestamp
  | varbinary
deriving DecidableEq

/-- The largest 32-bit signed integer, the size reported for unbounded data. -/
def unboundedSize : Int := 2147483647

namespace DataType

/-- Every type, in the order of preference. -/
def all : List DataType :=
  [unknown, null, varchar, boolean, integer, bigint, decimal, real, double, time, date,
    timestamp, varbinary]

/-- The place of a type in the order of preference. Untyped operands give way to
strings, strings to numbers, narrow numbers to wide ones, and numbers to temporal types. -/
def rank : DataType → Nat
  | unknown => 0
  | null => 1
  | varchar => 2
  | boolean => 3
  | integer => 4
  | bigint => 5
  | decimal => 6
  | real => 7
  | double => 8
  | time => 9
  | date => 10
  | timestamp => 11
  | varbinary => 12

/-- The one of two types that ranks higher, the right one if they are the same. -/
def preferred (left right : DataType) : DataType :=
  if right.rank < left.rank then left else right

/-- The name of a type in SQL. -/
def name : DataType → String
  | unknown => "UNKNOWN"
  | null => "NULL"
  | varchar => "VARCHAR"
  | boolean => "BOOLEAN"
  | integer => "INTEGER"
  | bigint => "BIGINT"
  | decimal => "DECIMAL"
  | real => "REAL"
  | double => "DOUBLE"
  | time => "TIME"
  | date => "DATE"
  | timestamp => "TIMESTAMP"
  | varbinary => "VARBINARY"

/-- The type with a name. -/
def ofName? (name : String) : Option DataType :=
  all.find? (fun type => type.name == name)

/-- The short label under which diagnostics about operands list a type. -/
def label : DataType → String
  | unknown => "Unknown"
  | null => "Null"
  | varchar => "Varchar"
  | boolean => "Boolean"
  | integer => "Int"
  | bigint => "BigInt"
  | decimal => "Decimal"
  | real => "Float"
  | double => "Double"
  | time => "Time"
  | date => "Date"
  | timestamp => "Timestamp"
  | varbinary => "Bytes"

def isString : DataType → Bool
  | varchar => true
  | _ => false

/-- Times of day, dates and timestamps. -/
def isTemporal : DataType → Bool
  | time | date | timestamp => true
  | _ => false

/-- Whether the numbers of a type can have a fraction. -/
def isFractional : DataType → Bool
  | decimal | real | double => true
  | _ => false

/-- Whether the values of a type have a day in the calendar. -/
def hasDate : DataType → Bool
  | date | timestamp => true
  | _ => false

/-- The number of digits or characters that a value of a type can have. -/
def precision : DataType → Int
  | unknown | null | boolean => 1
  | integer => 10
  | bigint => 19
  | decimal => 65535
  | real => 7
  | double => 17
  | time => 6
  | date => 8
  | timestamp => 23
  | varchar | varbinary => unboundedSize

/-- The number of digits behind the point that a value of a type can have. -/
def scale : DataType → Int
  | decimal => 32767
  | timestamp => 10
  | _ => 0

/-- The number of characters the text of a value of a type can need. -/
def displaySize : DataType → Int
  | unknown | null => 4
  | boolean => 5
  | integer => 11
  | bigint => 20
  | decimal => 65535
  | real => 15
  | double => 24
  | time => 8
  | date => 10
  | timestamp => 23
  | varchar | varbinary => unboundedSize

/-- The order of preference is a linear order: types of one rank are one type. -/
theorem eq_of_rank_eq {left right : DataType} (same : left.rank = right.rank) :
    left = right := by
  cases left <;> cases right <;> first | rfl | cases same

end DataType

end SqlScalar
