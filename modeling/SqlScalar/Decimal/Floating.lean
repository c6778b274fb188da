import SqlScalar.Decimal.Arithmetic
import SqlScalar.Floating.Arithmetic

/-! # Between decimal and floating-point numbers

A decimal number becomes a floating-point number by adding its whole part and its
fraction, and rounding the sum to the scale of the decimal number. A floating-point number
that is whole becomes the decimal number of its value. Any other one is brought to decimal
places by halving its significand, an odd one becoming five times as large at the next
decimal place as long as there is room; the digits beyond the precision of the format are
then rounded away one by one.
-/

namespace SqlScalar

open Floating

/-- The floating-point number a whole number of at most 96 bits is nearest to. -/
def Floating.ofNat {format : FloatFormat} (number : Nat) : Floating format :=
  ofRatio false (number * format.one) 1

/-- The nearest whole number of the format, half away from zero. -/
def Floating.roundToWhole {format : FloatFormat} : Floating format → Floating format
  | .finite negative units _ => ofRatio negative (roundHalfUp units format.one * format.one) 1
  | value => value

namespace Decimal

/-- The magnitude of a decimal number with digits behind the point as a floating-point
number. -/
def fractionalMagnitude (number : Decimal) : Floating .double :=
  let power := 10 ^ number.scale
  let whole := Floating.ofNat (number.mantissa / power)
  let fraction := divide (Floating.ofNat (number.mantissa % power)) (Floating.ofNat power)
  if fraction.isZero then whole
  else
    divide (multiply (add whole fraction) (Floating.ofNat power)).roundToWhole
      (Floating.ofNat power)

/-- A decimal number as a floating-point number. One with digits behind the point is put together
from its whole and its fractional part. -/
def toDouble (number : Decimal) : Floating .double :=
  if number.scale = 0 then Floating.ofInt number.signed
  else if number.negative then number.fractionalMagnitude.negate
  else number.fractionalMagnitude

/-- A mantissa and its scale divided by two. An odd mantissa gets another decimal place,
unless there is no room, and then loses its last bit. -/
def halve (number : Nat × Nat) : Nat × Nat :=
  if number.1 % 2 = 1 ∧ 5 * number.1 < mantissaLimit then (5 * number.1, number.2 + 1)
  else (number.1 / 2, number.2)

/-- A whole number divided by two a number of times, as a mantissa and its scale. -/
def halved (whole : Nat) : (times : Nat) → Nat × Nat
  | 0 => (whole, 0)
  | times + 1 => halve (halved whole times)

/-- A mantissa and its scale without zeros at the end of the digits behind the point. -/
def stripZeros (mantissa : Nat) : (scale : Nat) → Nat × Nat
  | 0 => (mantissa, 0)
  | scale + 1 =>
      if mantissa % 10 = 0 then stripZeros (mantissa / 10) scale else (mantissa, scale + 1)

/-- Rounds digits away until the scale is one a decimal number can have. A mantissa that
runs out of digits is zero. -/
def reduceScale (mantissa : Nat) : (scale : Nat) → Nat × Nat
  | 0 => (mantissa, 0)
  | scale + 1 =>
      if scale + 1 ≤ maxScale then (mantissa, scale + 1)
      else if mantissa / 10 = 0 then (0, 0)
      else reduceScale (roundHalfUp mantissa 10) scale

/-- Rounds digits behind the point away until the mantissa is below a limit. -/
def shorten (limit mantissa : Nat) : (scale : Nat) → Nat × Nat
  | 0 => (mantissa, 0)
  | scale + 1 =>
      if limit ≤ mantissa then shorten limit (roundHalfUp mantissa 10) scale
      else (mantissa, scale + 1)

/-- The decimal number that stands for a magnitude with a fraction: its significand divided
by two a number of times, to the precision of the format. -/
def ofFraction? (format : FloatFormat) (negative : Bool) (significand times : Nat) :
    Option Decimal :=
  let (mantissa, scale) := halved significand times
  let (mantissa, scale) := reduceScale mantissa scale
  let (mantissa, scale) := shorten (2 ^ format.decimalBits) mantissa scale
  let (mantissa, scale) := stripZeros mantissa scale
  ofParts? negative mantissa scale

/-- The decimal number that stands for a floating-point number, if it is in range. -/
def ofFloating? {format : FloatFormat} : Floating format → Option Decimal
  | .finite negative units _ =>
      let step := format.step units
      if units = 0 ∨ format.one ≤ step then ofParts? negative (units / format.one) 0
      else ofFraction? format negative (units / step) (format.unitBits - step.log2)
  | _ => none

end Decimal

end SqlScalar
