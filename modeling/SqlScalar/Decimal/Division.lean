import SqlScalar.Decimal.Arithmetic

/-! # Division of decimal numbers

A quotient of mantissas that divide without remainder keeps the difference of the scales.
Any other quotient is found by long division, nine digits at a time or as many as there is
room for. If that does not come to an end, the quotient has as many digits behind the point
as there is room for and is rounded half to even. Zeros at its end are then taken away in
groups, so a few of them may stay.
-/

namespace SqlScalar.Decimal

/-- A division as far as its digits have been found. -/
structure LongDivision where
  quotient : Nat
  /-- What is left of the dividend, in units of the last digit found. -/
  rest : Nat
  /-- The scale of the last digit found. A negative one stands for missing zeros. -/
  scale : Int

namespace LongDivision

/-- The number of digits that are found at once at most. -/
def chunk : Nat := 9

/-- A division with some more digits of the quotient. -/
def extend (division : LongDivision) (divisor count : Nat) : LongDivision :=
  let dividend := division.rest * 10 ^ count
  ⟨division.quotient * 10 ^ count + dividend / divisor, dividend % divisor,
    division.scale + count⟩

/-- Whether the quotient can take some more digits, with a mantissa and a scale that fit. -/
def hasRoom (division : LongDivision) (count : Nat) : Bool :=
  division.scale + count ≤ maxScale && division.quotient * 10 ^ count < mantissaLimit

/-- The largest number of further digits, of at most a chunk, there is room for. -/
def room (division : LongDivision) : (most : Nat) → Nat
  | 0 => 0
  | most + 1 => if division.hasRoom (most + 1) then most + 1 else division.room most

/-- The number of digits found next. Without a rest only missing zeros are. -/
def next (division : LongDivision) : Nat :=
  if division.rest = 0 then min chunk (-division.scale).toNat else division.room chunk

/-- The end of a long division that leaves no rest, if it comes to one in a number of
steps. -/
def finish? (divisor : Nat) : (steps : Nat) → LongDivision → Option LongDivision
  | 0, _ => none
  | steps + 1, division =>
      if division.rest = 0 ∧ 0 ≤ division.scale then some division
      else
        let extended := division.extend divisor division.next
        if division.next = 0 ∨ mantissaLimit ≤ extended.quotient then none
        else finish? divisor steps extended

end LongDivision

/-- A mantissa and its scale without a group of zeros at the end of the digits behind the
point, if it ends in one. -/
def dropGroup (count : Nat) (number : Nat × Nat) : Nat × Nat :=
  if count ≤ number.2 ∧ number.1 % 10 ^ count = 0 then
    (number.1 / 10 ^ count, number.2 - count)
  else number

/-- A mantissa and its scale without eight zeros at the end of the digits behind the point.
They are taken away only from a multiple of the 32nd power of two. -/
def dropEight (number : Nat × Nat) : Nat × Nat :=
  if number.1 % 2 ^ (32 : Nat) = 0 then dropGroup 8 number else number

/-- A mantissa and its scale without zeros at the end of the digits behind the point, as
far as they come in groups of eight, four, two and one. -/
def dropZeros (mantissa scale : Nat) : Nat × Nat :=
  dropGroup 1 (dropGroup 2 (dropGroup 4 (dropEight (dropEight (dropEight (mantissa, scale))))))

/-- The quotient of two numbers to as many digits behind the point as there is room for. -/
def longest? (left right : Decimal) : Option (Nat × Nat) :=
  (List.range (maxScale + 1)).findSome? fun missing =>
    let scale := maxScale - missing
    let mantissa := roundHalfEven (left.mantissa * 10 ^ (right.scale + scale))
      (right.mantissa * 10 ^ left.scale)
    if mantissa < mantissaLimit then some (mantissa, scale) else none

/-- The long division of the mantissas of two numbers, as far as its whole part. -/
def divisionOf (left right : Decimal) : LongDivision :=
  ⟨left.mantissa / right.mantissa, left.mantissa % right.mantissa,
    (left.scale : Int) - right.scale⟩

/-- The mantissa and scale of the quotient of two numbers neither of which is zero. -/
def quotient? (left right : Decimal) : Option (Nat × Nat) :=
  let division := divisionOf left right
  match division.finish? right.mantissa (2 * maxScale + 1) with
  | some finished =>
      if division.rest = 0 then some (finished.quotient, finished.scale.toNat)
      else some (dropZeros finished.quotient finished.scale.toNat)
  | none => (longest? left right).map fun (mantissa, scale) => dropZeros mantissa scale

/-- The quotient of two numbers, if the divisor is not zero. -/
def divide? (left right : Decimal) : Option Decimal :=
  if right.isZero then none
  else if left.isZero then some zero
  else do
    let (mantissa, scale) ← quotient? left right
    ofResult? (left.negative != right.negative) mantissa scale

end SqlScalar.Decimal
