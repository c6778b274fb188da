import SqlScalar.Value.Notation
import SqlScalar.Calendar.Reading
import SqlScalar.Decimal.Floating
import SqlScalar.Failure
import SqlScalar.Integer
import SqlScalar.Text.Words

/-! # Conversion of values

Every value converts to its own type and to a string, and `NULL` to every type. Between
numbers conversion rounds, strings are read by the notation of the target type, and times
and dates convert where one determines the other. A whole number out of range is an
overflow; all else that does not convert is a conversion failure.
-/

namespace SqlScalar.Value

open Text Calendar

/-- The text of a string without the blanks around it. -/
def trimmed (text : String) : List Char :=
  trim text.toList

/-- The truth value a text stands for: one of eight words, or a number that is not zero. -/
def readTruth? (text : List Char) : Option Bool :=
  let word := upper text
  if ["TRUE", "T", "YES", "Y"].contains (String.ofList word) then some true
  else if ["FALSE", "F", "NO", "N"].contains (String.ofList word) then some false
  else (Floating.read? word : Option (Floating .double)).map fun number => !number.isZero

/-- The truth value that a value converts to. Numbers other than zero are true. -/
def toBoolean? : Value → Option Bool
  | varchar text => readTruth? (trimmed text)
  | integer number => some (number != 0)
  | bigint number => some (number != 0)
  | decimal number => some (!number.isZero)
  | real number => some (!number.isZero)
  | double number => some (!number.isZero)
  | _ => none

/-- The integer nearest to the number a text stands for. An integer may have up to 128
bits, and any other number is read as a decimal number. -/
def readRounded? (text : List Char) : Option Int :=
  match readInteger? text with
  | some number =>
      if -(2 ^ (127 : Nat) : Int) ≤ number ∧ number < 2 ^ (127 : Nat) then some number
      else (Decimal.read? text).map Decimal.round
  | none => (Decimal.read? text).map Decimal.round

/-- The integer nearest to a value, half away from zero. -/
def toWhole? : Value → Option Int
  | boolean truth => some (if truth then 1 else 0)
  | integer number => some number.toInt
  | bigint number => some number.toInt
  | decimal number => some number.round
  | real number => number.round?
  | double number => number.round?
  | varchar text => readRounded? (trimmed text)
  | _ => none

/-- The decimal number that a value converts to. -/
def toDecimal? : Value → Option Decimal
  | boolean truth => some (if truth then Decimal.ofInt64 1 else Decimal.zero)
  | integer number => some (Decimal.ofInt64 number.toInt64)
  | bigint number => some (Decimal.ofInt64 number)
  | real number => Decimal.ofFloating? number
  | double number => Decimal.ofFloating? number
  | varchar text => Decimal.read? (trimmed text)
  | _ => none

/-- The floating-point number that a value converts to. -/
def toDouble? : Value → Option (Floating .double)
  | boolean truth => some (Floating.ofInt (if truth then 1 else 0))
  | integer number => some (Floating.ofInt number.toInt)
  | bigint number => some (Floating.ofInt number.toInt)
  | decimal number => some number.toDouble
  | real number => some number.convert
  | double number => some number
  | varchar text => Floating.read? (trimmed text)
  | _ => none

/-- The time of day that a value converts to. -/
def toTime? : Value → Option TimeOfDay
  | timestamp instant => some instant.time
  | varchar text => TimeOfDay.read? (trimmed text)
  | _ => none

/-- The date that a value converts to. -/
def toDate? : Value → Option Date
  | timestamp instant => some instant.date
  | varchar text => Date.read? (trimmed text)
  | _ => none

/-- A value as an instant. A date is its midnight, and a time of day is on the first day
of 1970. -/
def toTimestamp? : Value → Option Timestamp
  | date day => some (Timestamp.atMidnight day)
  | time clock => some (Timestamp.anchored clock)
  | varchar text => Timestamp.read? (trimmed text)
  | _ => none

/-- The bytes that a value converts to. -/
def toBytes? : Value → Option (List UInt8)
  | varchar text => Hex.read? (trimmed text)
  | _ => none

/-- The failure of a conversion, with the value as it is shown. -/
def conversionFailure (value : Value) (target : DataType) : Failure :=
  .conversion value.display target

/-- A converted value, or the failure to convert. -/
def converted (value : Value) (target : DataType) (result : Option Value) : Outcome Value :=
  match result with
  | some result => .ok result
  | none => .error (value.conversionFailure target)

/-- A value converted to a whole number of a type with a given range. -/
def convertToWhole (value : Value) (target : DataType) (narrow? : Int → Option Value) :
    Outcome Value :=
  match value.toWhole? with
  | none => .error (value.conversionFailure target)
  | some number =>
      match narrow? number with
      | some result => .ok result
      | none => .error (.overflow value.display)

/-- A value of another type converted to a type, neither of them without values. -/
def convertAcross (value : Value) (target : DataType) : Outcome Value :=
  match target with
  | .unknown => .ok value
  | .null => .ok null
  | .varchar => .ok (varchar value.display)
  | .boolean => value.converted target (value.toBoolean?.map boolean)
  | .integer => value.convertToWhole target fun number => (narrow32? number).map integer
  | .bigint => value.convertToWhole target fun number => (narrow64? number).map bigint
  | .decimal => value.converted target (value.toDecimal?.map decimal)
  | .real => value.converted target (value.toDouble?.map fun number => real number.convert)
  | .double => value.converted target (value.toDouble?.map double)
  | .time => value.converted target (value.toTime?.map time)
  | .date => value.converted target (value.toDate?.map date)
  | .timestamp => value.converted target (value.toTimestamp?.map timestamp)
  | .varbinary => value.converted target (value.toBytes?.map varbinary)

/-- A value converted to a type. A value of the type is left as it is, as is every value
if the type is not known, and `NULL` has every type. -/
def convertTo (value : Value) (target : DataType) : Outcome Value :=
  if value.type = target ∨ target = .unknown then .ok value
  else if value.isNull then .ok null
  else value.convertAcross target

end SqlScalar.Value
