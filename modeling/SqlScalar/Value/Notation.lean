import SqlScalar.Value.Basic
import SqlScalar.Calendar.Notation
import SqlScalar.Decimal.Notation
import SqlScalar.Floating.Notation

/-! # Written values

A value has a plain text, which is also its conversion to a string, and a literal text,
which stands for it within SQL. A character literal stands between single quotes, and a
quote inside it is written twice.
-/

namespace SqlScalar.Text

/-- A text with each quote written twice. -/
def doubleQuotes : List Char → List Char
  | [] => []
  | '\'' :: rest => '\'' :: '\'' :: doubleQuotes rest
  | char :: rest => char :: doubleQuotes rest

/-- A text in quotes. -/
def quoted (text : List Char) : List Char :=
  '\'' :: doubleQuotes text ++ ['\'']

end SqlScalar.Text

namespace SqlScalar.Value

open Text

/-- A value as it is shown. -/
def text : Value → List Char
  | null => "NULL".toList
  | boolean truth => if truth then "TRUE".toList else "FALSE".toList
  | integer number => signedDigits number.toInt
  | bigint number => signedDigits number.toInt
  | decimal number => number.text
  | real number => number.text
  | double number => number.text
  | varchar string => string.toList
  | time clock => clock.text
  | date day => day.text
  | timestamp instant => instant.text
  | varbinary bytes => Hex.write bytes

/-- A value as it is shown, as a string. -/
def display (value : Value) : String :=
  String.ofList value.text

/-- A value as it is written in SQL, so that its type shows. -/
def literal : Value → List Char
  | varchar string => quoted string.toList
  | time clock => "TIME '".toList ++ clock.text ++ ['\'']
  | date day => "DATE '".toList ++ day.text ++ ['\'']
  | timestamp instant => "TIMESTAMP '".toList ++ instant.text ++ ['\'']
  | varbinary bytes => "X'".toList ++ Hex.write bytes ++ ['\'']
  | value => value.text

/-- A value as it is written in SQL, as a string. -/
def sql (value : Value) : String :=
  String.ofList value.literal

end SqlScalar.Value
