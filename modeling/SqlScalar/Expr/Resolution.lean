import SqlScalar.Expr.Evaluation

/-! # Resolution

Resolving an expression settles the type of every operation and call in it, replaces
arithmetic on dates by calls of the date functions, and folds operations and calls on
constants to their value. Operands are resolved first, so each rule of this module works
on resolved operands and resolves one node. Operands of an arithmetic operation are promoted
to their common type, the preferred one of the two. A parameter without a value has no type,
so together with another untyped operand it leaves the common type open.
-/

namespace SqlScalar.DataType

/-- Whether an operand of this type says nothing about the type of an operation. -/
def isUntyped : DataType → Bool
  | unknown | null => true
  | _ => false

/-- The type two operands are converted to, unless neither of them determines it. -/
def promote (left right : DataType) : Outcome DataType :=
  if (left = unknown ∨ right = unknown) ∧ left.isUntyped ∧ right.isUntyped then
    .error (.untyped left right)
  else
    .ok (preferred left right)

end SqlScalar.DataType

namespace SqlScalar

open Calendar

/-- The number of seconds in a day, as an expression. -/
def Expr.daySeconds : Expr :=
  .int 86400

namespace Resolution

/-- An operation on resolved operands with its type, folded if both are constants. -/
def fold (mode : Mode) (op : BinaryOp) (left right : Expr) (type : DataType)
    (convertsRight : Bool) : Outcome Expr :=
  match left, right with
  | .literal a, .literal b => do
      let value ← op.evaluate mode type convertsRight (.ok a) (.ok b)
      .ok (.literal value)
  | left, right => .ok (.binary op left right (some type) convertsRight)

/-- The type of a negation: that of its operand, and `DECIMAL` if the operand has none. -/
def negationType : DataType → DataType
  | .unknown => .decimal
  | type => type

/-- The negation of a resolved operand. That of a constant is a constant. -/
def negation (operand : Expr) : Outcome Expr :=
  let type := negationType operand.type
  match operand with
  | .literal value => do
      let value ← evaluateNegation type (.ok value)
      .ok (.literal value)
  | operand => .ok (.negate operand (some type))

/-- The unit a call is resolved with, if it is a constant other than `NULL`. -/
def constantUnit : Expr → Outcome (Option TimeUnit)
  | .literal value =>
      if value.isNull then .ok none else (TimeUnit.parse value.display).map some
  | _ => .ok none

/-- The type of a call: a number of units for a difference, and for a sum the type of the
instant that is moved, which must be a timestamp unless the unit is known to keep dates. -/
def callType (function : DateFunction) (unit : Option TimeUnit) (moved : DataType) : DataType :=
  match function with
  | .dateDiff => .bigint
  | .dateAdd =>
      match moved, unit with
      | .time, _ => .time
      | .date, some unit => if unit.keepsDate then .date else .timestamp
      | _, _ => .timestamp

/-- The call of a date function on resolved arguments, folded if all are constants. -/
def call (function : DateFunction) (unit first second : Expr) : Outcome Expr := do
  let known ← constantUnit unit
  let type := callType function known second.type
  match unit, first, second with
  | .literal a, .literal b, .literal c => do
      let value ← function.evaluate type (.ok a) (.ok b) (.ok c)
      .ok (.literal value)
  | unit, first, second => .ok (.call function unit first second (some type))

/-- The type in which arithmetic is done on operands of a common type. -/
def arithmeticType (mode : Mode) (common : DataType) : DataType :=
  if mode.forceDecimal then .decimal else common

/-- Arithmetic on resolved operands neither of which is temporal, and not both untyped. If
strings are concatenated by adding them, arithmetic on strings is concatenation. -/
def numeric (mode : Mode) (op : ArithOp) (left right : Expr) (convertsRight : Bool) :
    Outcome Expr := do
  let common ← DataType.promote left.type right.type
  if common.isString && mode.plusConcatenates then
    fold mode .concat left right common convertsRight
  else fold mode (.arith op) left right (arithmeticType mode common) convertsRight

/-- Arithmetic on resolved operands that are both parameters or both `NULL`. A sum may be
meant as a concatenation; numbers are computed as decimals, to be safe. -/
def untyped (mode : Mode) (op : ArithOp) (left right : Expr) (convertsRight : Bool) :
    Outcome Expr :=
  if op = .plus ∧ mode.plusConcatenates then fold mode .concat left right .varchar convertsRight
  else fold mode (.arith op) left right .decimal convertsRight

/-- The failure of an operator that is not defined on operands of these types. -/
def unsupported (left : DataType) (op : ArithOp) (right : DataType) : Outcome Expr :=
  .error (.unsupported left op right)

/-- The sum of two resolved operands, the right one of the preferred type. An instant is
moved by a whole number of days, or by a fraction of days in seconds. -/
def orderedSum (mode : Mode) (left right : Expr) (convertsRight : Bool) : Outcome Expr :=
  let keep (type : DataType) : Outcome Expr :=
    .ok (.binary (.arith .plus) left right (some type) convertsRight)
  if left.type = .integer then call .dateAdd (.string "DAY") left right
  else if left.type.isFractional then do
    let seconds ← numeric mode .multiply .daySeconds left true
    call .dateAdd (.string "SECOND") seconds right
  else if left.type = .time then
    if right.type = .time then keep .time else keep .timestamp
  else unsupported left.type .plus right.type

/-- A sum of resolved operands at least one of which is temporal, put in order. -/
def temporalSum (mode : Mode) (left right : Expr) (convertsRight : Bool) : Outcome Expr :=
  if DataType.preferred left.type right.type = right.type then
    orderedSum mode left right convertsRight
  else orderedSum mode right left convertsRight

/-- A difference of resolved operands at least one of which is temporal. -/
def temporalDifference (mode : Mode) (left right : Expr) (convertsRight : Bool) :
    Outcome Expr :=
  let keep (type : DataType) : Outcome Expr :=
    .ok (.binary (.arith .minus) left right (some type) convertsRight)
  if left.type.hasDate then
    if right.type = .integer then do
      let days ← negation right
      call .dateAdd (.string "DAY") days left
    else if right.type.isFractional then do
      let seconds ← numeric mode .multiply .daySeconds right true
      let seconds ← negation seconds
      call .dateAdd (.string "SECOND") seconds left
    else if right.type = .time then keep .timestamp
    else if right.type.hasDate then call .dateDiff (.string "DAY") right left
    else unsupported left.type .minus right.type
  else if left.type = .time ∧ right.type = .time then keep .time
  else unsupported left.type .minus right.type

/-- A time of day times a factor, which keeps its own type. -/
def scaled (op : ArithOp) (time factor : Expr) : Outcome Expr :=
  .ok (.binary (.arith op) time factor (some .time) false)

/-- Arithmetic on resolved operands at least one of which is temporal. -/
def temporal (mode : Mode) (op : ArithOp) (left right : Expr) (convertsRight : Bool) :
    Outcome Expr :=
  match op with
  | .plus => temporalSum mode left right convertsRight
  | .minus => temporalDifference mode left right convertsRight
  | .multiply =>
      if left.type = .time then scaled .multiply left right
      else if right.type = .time then scaled .multiply right left
      else unsupported left.type .multiply right.type
  | .divide =>
      if left.type = .time then scaled .divide left right
      else unsupported left.type .divide right.type
  | .modulus => unsupported left.type .modulus right.type

/-- Arithmetic on resolved operands, by what their types have in common. -/
def arithmetic (mode : Mode) (op : ArithOp) (left right : Expr) (convertsRight : Bool) :
    Outcome Expr :=
  if left.type = right.type ∧ left.type.isUntyped then untyped mode op left right convertsRight
  else if left.type.isTemporal || right.type.isTemporal then
    temporal mode op left right convertsRight
  else numeric mode op left right convertsRight

/-- An operation on resolved operands. -/
def operation (mode : Mode) (op : BinaryOp) (left right : Expr) (convertsRight : Bool) :
    Outcome Expr :=
  match op with
  | .concat => fold mode .concat left right .varchar convertsRight
  | .arith op => arithmetic mode op left right convertsRight

end Resolution

namespace Expr

/-- An expression with its operations settled, as far as the types of their operands tell. Parts
that are constant are computed. -/
def resolve (mode : Mode) : Expr → Outcome Expr
  | literal value => .ok (literal value)
  | column reference =>
      if reference.binding.isSome then .ok (column reference)
      else .error (.columnNotFound reference.sql)
  | parameter index => .ok (parameter index)
  | negate operand _ => do
      Resolution.negation (← operand.resolve mode)
  | binary op left right _ convertsRight => do
      let left ← left.resolve mode
      let right ← right.resolve mode
      Resolution.operation mode op left right convertsRight
  | call function unit first second _ => do
      let unit ← unit.resolve mode
      let first ← first.resolve mode
      let second ← second.resolve mode
      Resolution.call function unit first second
  | aggregate kind argument _ state => do
      let argument ← argument.resolve mode
      let type ← kind.outputType argument.type
      .ok (aggregate kind argument (some type) state)

end Expr

end SqlScalar
