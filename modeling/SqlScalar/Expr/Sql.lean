import SqlScalar.Expr.Basic
import SqlScalar.Value.Notation

/-! # Expressions as SQL text

Operations are written in parentheses with spaces around the operator. The space behind a
minus sign keeps two of them from opening a comment.
-/

namespace SqlScalar

open Text

/-- A column reference as it is written. -/
def ColumnRef.text (reference : ColumnRef) : List Char :=
  match reference.qualifier with
  | some table => table.toList ++ '.' :: reference.name.toList
  | none => reference.name.toList

def ColumnRef.sql (reference : ColumnRef) : String :=
  String.ofList reference.text

/-- The call of a function with its arguments, as written. -/
def callText (name : String) (arguments : List (List Char)) : List Char :=
  name.toList ++ '(' :: List.intercalate [',', ' '] arguments ++ [')']

namespace Expr

/-- An expression as it is written in SQL, with all operations in parentheses. -/
def text : Expr → List Char
  | literal value => value.literal
  | column reference => reference.text
  | parameter index => '?' :: digits index.number
  | negate operand _ => ['(', '-', ' '] ++ operand.text ++ [')']
  | binary op left right _ _ =>
      '(' :: left.text ++ ' ' :: op.token.toList ++ ' ' :: right.text ++ [')']
  | call function unit first second _ =>
      callText function.name [unit.text, first.text, second.text]
  | aggregate kind argument _ _ => callText kind.name [argument.text]

def sql (expr : Expr) : String :=
  String.ofList expr.text

end Expr

end SqlScalar
