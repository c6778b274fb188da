import SqlScalar.Expr.Binding
import SqlScalar.Expr.Resolution

/-! # Sample expressions

A table of orders, one of its rows, and expressions that show each kind of resolution on
it. They are reported on in a table with a line for each of them: its text, the text and
type it is resolved to under a mode, and its value for the sample row, or what went wrong.
-/

namespace SqlScalar.Demo

open SqlScalar.Calendar SqlScalar.Expr

/-- The table that the samples refer to. -/
def orders : Table where
  name := "O"
  columns := [
    ⟨"ID", .integer⟩,
    ⟨"NAME", .varchar⟩,
    ⟨"PLACED", .date⟩,
    ⟨"SHIPPED", .date⟩,
    ⟨"PRICE", .decimal⟩,
    ⟨"OPENS", .time⟩]

/-- The day an order was placed, the 27th of February 2024. -/
def placed : Date where
  ordinal := Date.civilOrdinal 2024 2 27
  first_le := by decide
  le_last := by decide

/-- The day an order was shipped, the 4th of March 2024. -/
def shipped : Date where
  ordinal := Date.civilOrdinal 2024 3 4
  first_le := by decide
  le_last := by decide

/-- Half past nine. -/
def opens : TimeOfDay where
  second := 9 * 3600 + 30 * 60
  nano := 0
  second_lt := by decide
  nano_lt := TimeOfDay.midnight.nano_lt
  leap_at_end := by decide

/-- The number 19.99. -/
def price : Decimal where
  negative := false
  mantissa := 1999
  scale := 2
  mantissa_lt := by decide
  scale_le := by decide

/-- The number 1.5. -/
def dayAndHalf : Decimal where
  negative := false
  mantissa := 15
  scale := 1
  mantissa_lt := by decide
  scale_le := by decide

/-- The one row of the table. -/
def row : List Value :=
  [.integer 7, .varchar "widget", .date placed, .date shipped, .decimal price, .time opens]

/-- The expressions that the report shows, which cover each kind of operation. -/
def samples : List Expr := [
  arith .plus (int 1) (int 2),
  arith .multiply (named "PRICE") (named "ID"),
  arith .modulus (named "ID") (int 4),
  negated (named "ID"),
  concat (named "NAME") (string "-x"),
  concat (literal .null) (named "NAME"),
  arith .plus (named "NAME") (named "NAME"),
  arith .plus (named "PLACED") (int 3),
  arith .minus (named "PLACED") (int 30),
  arith .minus (named "SHIPPED") (named "PLACED"),
  arith .plus (literal (.decimal dayAndHalf)) (named "PLACED"),
  arith .multiply (int 2) (named "OPENS"),
  arith .plus (named "PLACED") (named "OPENS"),
  arith .plus (named "PLACED") (literal (.boolean true))]

/-- A text with blanks behind it up to a width. -/
def padRight (width : Nat) (text : String) : String :=
  text ++ String.ofList (List.replicate (width - text.length) ' ')

/-- A line of the report: three columns of fixed width and one that takes the rest. -/
def line (expression resolved type value : String) : String :=
  padRight 40 expression ++ " " ++ padRight 50 resolved ++ " " ++ padRight 10 type ++ " " ++
    value

/-- The line for an expression that could not be resolved or evaluated. -/
def failureLine (expression step subject : String) (failure : Failure) : String :=
  padRight 40 expression ++ " Failed to " ++ step ++ " " ++ subject ++ ": " ++ failure.message

/-- The line of the report about an expression: how it is written and resolved, and its type and
value, or where it fails. -/
def reportOn (mode : Mode) (expr : Expr) : String :=
  let written := expr.sql
  match (expr.bindColumns orders 0).resolve mode with
  | .error failure => failureLine written "resolve" written failure
  | .ok resolved =>
      match resolved.evaluate ⟨mode, row, []⟩ with
      | .error failure => failureLine written "evaluate" resolved.sql failure
      | .ok value => line written resolved.sql resolved.type.name value.sql

/-- The report about all samples under a mode. -/
def report (mode : Mode) : List String :=
  line "EXPRESSION" "RESOLVED" "TYPE" "VALUE" :: samples.map (reportOn mode)

end SqlScalar.Demo
