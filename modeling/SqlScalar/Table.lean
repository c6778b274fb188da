import SqlScalar.DataType
import SqlScalar.Text.Words

/-! # Tables

A table takes part in a query under an alias, and its columns are found by name, without
regard to the case of ASCII letters.
-/

namespace SqlScalar

/-- A column of a table. -/
structure Column where
  name : String
  type : DataType
deriving DecidableEq

/-- A table, as far as references to its columns depend on it. -/
structure Table where
  name : String
  /-- The columns, in the order of a row. -/
  columns : List Column
deriving DecidableEq

/-- The place of a column in a row, and its type. -/
structure Slot where
  /-- The number of columns before it. -/
  index : Nat
  type : DataType
deriving DecidableEq

namespace Table

/-- The first column with a given name among columns that start at an index. -/
def findFrom (name : String) : (index : Nat) → List Column → Option Slot
  | _, [] => none
  | index, column :: rest =>
      if Text.sameName column.name name then some ⟨index, column.type⟩
      else findFrom name (index + 1) rest

/-- The place and type of the first column with a name. -/
def find? (table : Table) (name : String) : Option Slot :=
  findFrom name 0 table.columns

end Table

end SqlScalar
