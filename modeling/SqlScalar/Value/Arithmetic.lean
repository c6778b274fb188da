import SqlScalar.Value.Conversion
import SqlScalar.Decimal.Division
import SqlScalar.Floating.Arithmetic

/-! # Arithmetic of values

Arithmetic is defined on two numbers of one type, on two times of day or two timestamps
for sums and differences, and on a time of day with a number as its factor or divisor. A
timestamp added or subtracted counts by its distance from the start of 1970.
-/

namespace SqlScalar

open Calendar

/-- The exact result of an operation on integers. Quotients are rounded toward zero, and a
remainder has the sign of the dividend. -/
def ArithOp.exact (op : ArithOp) (left right : Int) : Int :=
  match op with
  | .plus => left + right
  | .minus => left - right
  | .multiply => left * right
  | .divide => left.tdiv right
  | .modulus => left.tmod right

/-- The result of an operation on integers of 64 bits, if it fits. A remainder is computed
together with its quotient, which has to fit too. -/
def ArithOp.exact64? (op : ArithOp) (left right : Int) : Option Int64 :=
  match op with
  | .modulus => do
      let _ ← narrow64? (ArithOp.divide.exact left right)
      narrow64? (op.exact left right)
  | _ => narrow64? (op.exact left right)

/-- The result of an operation on decimal numbers, if there is one. -/
def ArithOp.onDecimals? (op : ArithOp) (left right : Decimal) : Option Decimal :=
  match op with
  | .plus => left.add? right
  | .minus => left.subtract? right
  | .multiply => left.multiply? right
  | .divide => left.divide? right
  | .modulus => left.remainder? right

/-- The result of an operator on floating-point numbers. There always is one. -/
def ArithOp.onFloating {format : FloatFormat} (op : ArithOp) (left right : Floating format) :
    Floating format :=
  match op with
  | .plus => left.add right
  | .minus => left.subtract right
  | .multiply => left.multiply right
  | .divide => left.divide right
  | .modulus => left.remainder right

namespace Value

/-- A computation as failures show it. -/
def describe (op : ArithOp) (left right : Value) : String :=
  left.display ++ " " ++ op.token ++ " " ++ right.display

/-- The failure of a computation whose result does not fit. -/
def overflow (op : ArithOp) (left right : Value) : Failure :=
  .overflow (describe op left right)

/-- A result, or an overflow if there is none. -/
def orOverflow (op : ArithOp) (left right : Value) (result : Option Value) : Outcome Value :=
  match result with
  | some result => .ok result
  | none => .error (overflow op left right)

/-- A result, unless the operation divides and the divisor is zero. -/
def unlessDivisor (isZero : Bool) (op : ArithOp) (left right : Value) (result : Outcome Value) :
    Outcome Value :=
  if op.divides && isZero then .error (.divisionByZero (describe op left right)) else result

/-- A number by which a time of day can be scaled. -/
def factor? : Value → Option (Floating .double)
  | integer number => (integer number).toDouble?
  | bigint number => (bigint number).toDouble?
  | decimal number => (decimal number).toDouble?
  | real number => (real number).toDouble?
  | double number => (double number).toDouble?
  | _ => none

/-- The time of day that lies a number of nanoseconds after midnight, round the clock if need
be. -/
def clockAt (nanoseconds : Int) : Outcome Value :=
  let ofDay := (nanoseconds % nanosPerDay).toNat
  match TimeOfDay.ofSecond? (ofDay / nanosPerSecond) (ofDay % nanosPerSecond) with
  | some clock => .ok (time clock)
  | none => .error (.misuse (.noTimeOfDay ofDay))

/-- There is a time of day at any number of nanoseconds, counted around midnight. -/
theorem clockAt_eq (nanoseconds : Int) :
    clockAt nanoseconds = .ok (time (TimeOfDay.ofNanoseconds nanoseconds)) := by
  have found := (TimeOfDay.ofNanoseconds nanoseconds).ofSecond?_second_nano
  simp only [TimeOfDay.ofNanoseconds] at found
  simp only [clockAt, found, TimeOfDay.ofNanoseconds]

/-- A time of day times a number, or divided by one, by its distance from midnight. The number
of nanoseconds is cut to a whole number of 64 bits. -/
def scaleTime (op : ArithOp) (clock : TimeOfDay) (factor : Value) : Outcome Value :=
  match factor.factor? with
  | none => .error (.invalidOperands op .time factor.type)
  | some number =>
      unlessDivisor number.isZero op (time clock) factor <|
        match (op.onFloating (Floating.ofInt clock.nanoseconds) number).truncate? with
        | some nanoseconds => clockAt (clamp64 nanoseconds)
        | none => .error (overflow op (time clock) factor)

/-- The result of an operator on two numbers, times or instants of one type, or on a time and a
number. Any other operands are invalid. -/
def arith (op : ArithOp) (left right : Value) : Outcome Value :=
  match left, right with
  | integer a, integer b =>
      unlessDivisor (b == 0) op left right <|
        orOverflow op left right <| do
          let wide ← op.exact64? a.toInt b.toInt
          (narrow32? wide.toInt).map integer
  | bigint a, bigint b =>
      unlessDivisor (b == 0) op left right <|
        orOverflow op left right <| (op.exact64? a.toInt b.toInt).map bigint
  | decimal a, decimal b =>
      unlessDivisor b.isZero op left right <|
        orOverflow op left right <| (op.onDecimals? a b).map decimal
  | real a, real b => unlessDivisor b.isZero op left right <| .ok (real (op.onFloating a b))
  | double a, double b =>
      unlessDivisor b.isZero op left right <| .ok (double (op.onFloating a b))
  | time a, other =>
      match op, other with
      | .plus, time b => clockAt (a.nanoseconds + b.nanoseconds)
      | .minus, time b => clockAt (a.nanoseconds - b.nanoseconds)
      | .multiply, factor => scaleTime .multiply a factor
      | .divide, divisor => scaleTime .divide a divisor
      | op, other => .error (.invalidOperands op .time other.type)
  | timestamp a, timestamp b =>
      match op with
      | .plus => orOverflow op left right <| (a.advance b.sinceEpoch).map timestamp
      | .minus => orOverflow op left right <| (a.advance (-b.sinceEpoch)).map timestamp
      | op => .error (.invalidOperands op .timestamp .timestamp)
  | left, right => .error (.invalidOperands op left.type right.type)

/-- A value with the opposite sign. A time of day is turned round midnight. -/
def negate (value : Value) : Outcome Value :=
  let overflow : Failure := .overflow ("- " ++ value.display)
  match value with
  | null => .ok null
  | integer number =>
      match narrow32? (-number.toInt) with
      | some result => .ok (integer result)
      | none => .error overflow
  | bigint number =>
      match narrow64? (-number.toInt) with
      | some result => .ok (bigint result)
      | none => .error overflow
  | decimal number => .ok (decimal number.negate)
  | real number => .ok (real number.negate)
  | double number => .ok (double number.negate)
  | time clock => clockAt (-clock.nanoseconds)
  | value => .error (.notNegatable value.type)

end Value

end SqlScalar
