import SqlScalar.Expr.Basic

/-! # Properties of expressions

The properties by which a query plan decides where an expression can be evaluated. Each
holds of an expression if it holds of every column reference in it.
-/

namespace SqlScalar

/-- What can be asked of an expression. An expression has a property if each of its columns has
it. -/
inductive Property where
  /-- The same inputs always give the same result. -/
  | deterministic
  /-- Every table the expression refers to has been joined. -/
  | evaluatable
  /-- Every column belongs to a query outside the one at a level. -/
  | independent (level : Nat)
  /-- No column is bound through a table with this alias. -/
  | notThrough (table : String)
deriving DecidableEq

/-- Whether a column reference has a property. -/
def ColumnRef.has (reference : ColumnRef) : Property → Bool
  | .deterministic => true
  | .evaluatable => reference.evaluatable
  | .independent level =>
      match reference.binding with
      | some binding => binding.level < level
      | none => false
  | .notThrough table =>
      match reference.binding with
      | some binding => binding.table != table
      | none => true

/-- Whether an expression has a property, through all its parts. -/
def Expr.has : Expr → Property → Bool
  | literal _, _ => true
  | column reference, property => reference.has property
  | parameter _, _ => true
  | negate operand _, property => operand.has property
  | binary _ left right _ _, property => left.has property && right.has property
  | call _ unit first second _, property =>
      unit.has property && first.has property && second.has property
  | aggregate _ argument _ _, property => argument.has property

end SqlScalar
