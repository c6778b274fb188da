import SqlScalar.Rounding

/-! # Decimal numbers

A decimal number has a sign, a mantissa of at most 96 bits and a scale of at most 28, and
stands for the mantissa with its last `scale` digits behind the point. The scale is part
of the number: 1.5 and 1.50 are equal in value and written differently. Zero may carry a
minus sign, which negation puts there and arithmetic takes away.
-/

namespace SqlScalar

/-- A decimal number has no more digits behind the point than this. -/
def Decimal.maxScale : Nat := 28

/-- The digits of a decimal number make up a number below this. -/
def Decimal.mantissaLimit : Nat := 2 ^ (96 : Nat)

/-- A decimal number: a sign, digits, and how many of them stand behind the point. Zero can be
negative, and there are several ways to write one number. -/
structure Decimal where
  negative : Bool
  mantissa : Nat
  /-- The number of digits behind the point. -/
  scale : Nat
  mantissa_lt : mantissa < Decimal.mantissaLimit
  scale_le : scale ≤ Decimal.maxScale
deriving DecidableEq

namespace Decimal

/-- The decimal number with given parts, if they are in range. -/
def ofParts? (negative : Bool) (mantissa scale : Nat) : Option Decimal :=
  if inRange : mantissa < mantissaLimit ∧ scale ≤ maxScale then
    some ⟨negative, mantissa, scale, inRange.1, inRange.2⟩
  else none

/-- The decimal number with given parts, if they are in range. Zero has no minus sign. -/
def ofResult? (negative : Bool) (mantissa scale : Nat) : Option Decimal :=
  ofParts? (negative && mantissa != 0) mantissa scale

/-- Zero, with no digit behind the point. -/
def zero : Decimal where
  negative := false
  mantissa := 0
  scale := 0
  mantissa_lt := by decide
  scale_le := by decide

/-- An integer of 64 bits as a decimal number. It always fits. -/
def ofInt64 (number : Int64) : Decimal where
  negative := number.toInt < 0
  mantissa := number.toInt.natAbs
  scale := 0
  mantissa_lt := by
    have upper := number.toInt_lt
    have lower := number.le_toInt
    simp only [mantissaLimit]
    omega
  scale_le := by decide

/-- The digits of a decimal number without the point, with its sign. -/
def signed (number : Decimal) : Int :=
  if number.negative then -number.mantissa else number.mantissa

/-- The number in units of the last digit any decimal number can have. -/
def units (number : Decimal) : Int :=
  number.signed * 10 ^ (maxScale - number.scale)

/-- Whether the number is zero, of either sign. -/
def isZero (number : Decimal) : Bool :=
  number.mantissa = 0

/-- A decimal number with the other sign. -/
def negate (number : Decimal) : Decimal :=
  { number with negative := !number.negative }

/-- Decimal numbers are ordered by what they stand for, however they are written. -/
def compare (left right : Decimal) : Ordering :=
  Ord.compare left.units right.units

/-- The nearest whole number, half away from zero. -/
def round (number : Decimal) : Int :=
  roundHalfAway number.signed (10 ^ number.scale)

/-- The magnitude of the value in units of the digit at a scale that is no smaller than
the number's own. -/
def magnitudeAt (number : Decimal) (scale : Nat) : Nat :=
  number.mantissa * 10 ^ (scale - number.scale)

/-- The value in units of the digit at a scale that is no smaller than the number's own. -/
def signedAt (number : Decimal) (scale : Nat) : Int :=
  number.signed * 10 ^ (scale - number.scale)

end Decimal

end SqlScalar
