import SqlScalar.Decimal.Basic

/-! # Arithmetic of decimal numbers

Each operation computes the exact result and fits it into a decimal number by rounding
away as few digits behind the point as possible, half to even. There is no result when
that is not enough.
-/

namespace SqlScalar.Decimal

/-- The exact number `mantissa / 10 ^ scale` as a decimal number: at least `leastDrop`
digits behind the point are rounded away, and no more of them than the size of the
mantissa demands. -/
def fit? (negative : Bool) (mantissa scale leastDrop : Nat) : Option Decimal :=
  (List.range (scale + 1)).findSome? fun drop =>
    if leastDrop ≤ drop then
      ofResult? negative (roundHalfEven mantissa (10 ^ drop)) (scale - drop)
    else none

/-- The sum of two decimal numbers, rounded to as many digits as fit. -/
def sum? (left right : Decimal) : Option Decimal :=
  let scale := max left.scale right.scale
  let total := left.signedAt scale + right.signedAt scale
  fit? (total < 0) total.natAbs scale 0

/-- The sum of two numbers. Zero leaves the other one as it is, scale included. -/
def add? (left right : Decimal) : Option Decimal :=
  if left.isZero then some right
  else if right.isZero then some left
  else sum? left right

/-- The difference of two numbers. Subtracting zero changes nothing, scale included. -/
def subtract? (left right : Decimal) : Option Decimal :=
  if right.isZero then some (if left.isZero then right else left)
  else if left.isZero then some right.negate
  else sum? left right.negate

/-- The digits behind the point below which no product of two short mantissas reaches a
digit of a decimal number. -/
def shortProductScale : Nat := 47

/-- The product of two numbers. A product of two mantissas of at most 32 bits each that
lies far below the last digit of a decimal number is zero without digits behind the
point. -/
def multiply? (left right : Decimal) : Option Decimal :=
  let scale := left.scale + right.scale
  if left.isZero || right.isZero then some zero
  else if left.mantissa < 2 ^ (32 : Nat) ∧ right.mantissa < 2 ^ (32 : Nat) ∧
      shortProductScale < scale then
    some zero
  else
    fit? (left.negative != right.negative) (left.mantissa * right.mantissa) scale
      (scale - maxScale)

/-- The remainder of the quotient rounded toward zero, if the divisor is not zero. It has
the sign of the dividend, and a dividend smaller than the divisor is its own remainder. -/
def remainder? (left right : Decimal) : Option Decimal :=
  let scale := max left.scale right.scale
  let dividend := left.magnitudeAt scale
  let divisor := right.magnitudeAt scale
  if right.isZero then none
  else if left.isZero ∨ dividend = divisor then some zero
  else if dividend < divisor then some left
  else ofResult? left.negative (dividend % divisor) scale

end SqlScalar.Decimal
