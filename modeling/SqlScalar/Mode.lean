import SqlScalar.Text.Words

/-! # Compatibility modes

A mode carries the switches by which database products differ: what concatenation does
with `NULL`, whether `+` concatenates strings, and whether numbers are computed as
decimals throughout.
-/

namespace SqlScalar

/-- The products whose behaviour can be followed. -/
inductive Product where
  | regular
  | db2
  | derby
  | hsqldb
  | msSqlServer
  | mySql
  | oracle
  | postgreSql
deriving DecidableEq

namespace Product

/-- The products, in the order in which they are looked up. -/
def all : List Product :=
  [regular, db2, derby, hsqldb, msSqlServer, mySql, oracle, postgreSql]

/-- The name of a product, in its own letter case. -/
def name : Product → String
  | regular => "REGULAR"
  | db2 => "DB2"
  | derby => "Derby"
  | hsqldb => "HSQLDB"
  | msSqlServer => "MSSQLServer"
  | mySql => "MySQL"
  | oracle => "Oracle"
  | postgreSql => "PostgreSQL"

end Product

/-- The ways in which products differ. -/
structure Mode where
  product : Product
  /-- Concatenation with `NULL` is `NULL`, not the other operand. -/
  nullConcatIsNull : Bool
  /-- A sum of strings is their concatenation. -/
  plusConcatenates : Bool
  /-- Arithmetic without temporal operands is done on decimals. -/
  forceDecimal : Bool
deriving DecidableEq

namespace Mode

/-- The mode that follows a product. -/
def ofProduct (product : Product) : Mode where
  product := product
  nullConcatIsNull := match product with
    | .regular | .hsqldb | .msSqlServer | .postgreSql => true
    | .db2 | .derby | .mySql | .oracle => false
  plusConcatenates := product = .msSqlServer
  forceDecimal := false

def regular : Mode :=
  ofProduct .regular

/-- A mode has the name of its product. -/
def name (mode : Mode) : String :=
  mode.product.name

/-- The mode of the product with a given name, whatever its letter case. -/
def named? (name : String) : Option Mode :=
  let wanted := Text.upperWord name
  (Product.all.find? (fun product => Text.upperWord product.name == wanted)).map ofProduct

end Mode

end SqlScalar
