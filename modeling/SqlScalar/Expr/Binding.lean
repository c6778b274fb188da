import SqlScalar.Expr.Basic

/-! # Binding of column references

A column reference is bound to the first table offered to it that matches its qualifier
and has a column of its name. Once bound it stays bound. A table that has been joined
makes the references bound through its alias evaluatable.
-/

namespace SqlScalar

namespace ColumnRef

/-- Whether a table is the one a reference names, or may be because it names none. -/
def admits (reference : ColumnRef) (table : Table) : Bool :=
  match reference.qualifier with
  | some qualifier => Text.sameName qualifier table.name
  | none => true

/-- What a reference is bound to if a table is offered to it at a query level. -/
def offer? (reference : ColumnRef) (table : Table) (level : Nat) : Option Binding :=
  if reference.admits table then
    (table.find? reference.name).map fun slot => ⟨table.name, slot, level⟩
  else none

/-- The reference bound to a table, unless it is bound already or the table does not have
it. -/
def bind (reference : ColumnRef) (table : Table) (level : Nat) : ColumnRef :=
  match reference.binding with
  | some _ => reference
  | none => { reference with binding := reference.offer? table level }

/-- The reference marked as evaluatable or not, if it is bound through the alias of a
table. -/
def setEvaluatable (reference : ColumnRef) (table : String) (evaluatable : Bool) : ColumnRef :=
  match reference.binding with
  | some binding =>
      if binding.table = table then { reference with evaluatable := evaluatable } else reference
  | none => reference

end ColumnRef

namespace Expr

/-- An expression with each of its column references changed in the same way. -/
def mapColumns (change : ColumnRef → ColumnRef) : Expr → Expr
  | literal value => literal value
  | column reference => column (change reference)
  | parameter index => parameter index
  | negate operand resolved => negate (operand.mapColumns change) resolved
  | binary op left right resolved convertsRight =>
      binary op (left.mapColumns change) (right.mapColumns change) resolved convertsRight
  | call function unit first second resolved =>
      call function (unit.mapColumns change) (first.mapColumns change)
        (second.mapColumns change) resolved
  | aggregate kind argument resolved state =>
      aggregate kind (argument.mapColumns change) resolved state

/-- The expression with every column reference offered a table at a query level. -/
def bindColumns (table : Table) (level : Nat) : Expr → Expr :=
  mapColumns fun reference => reference.bind table level

/-- The expression with the column references bound through an alias marked. -/
def setEvaluatable (table : String) (evaluatable : Bool) : Expr → Expr :=
  mapColumns fun reference => reference.setEvaluatable table evaluatable

end Expr

end SqlScalar
