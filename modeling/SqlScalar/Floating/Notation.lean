import SqlScalar.Floating.Shortest
import SqlScalar.Text.Digits

/-! # Written floating-point numbers

A number is written with the shortest digits that stand for it, in positional notation
from a ten-thousandth to below ten to the sixteenth, and with an exponent outside that
range. Reading rounds the written number to the nearest number of the format.
-/

namespace SqlScalar.Floating

open Text

variable {format : FloatFormat}

/-- The powers of ten of the first digit for which numbers are written positionally. -/
def isPositional (leading : Int) : Bool :=
  -4 ≤ leading && leading < 16

/-- Digits in positional notation, with at least one digit behind the point. -/
def positional (run : List Char) (exponent : Int) : List Char :=
  if 0 ≤ exponent then run ++ List.replicate exponent.toNat '0' ++ ['.', '0']
  else
    let places := padZeros (exponent.natAbs + 1) run
    places.take (places.length - exponent.natAbs) ++
      '.' :: places.drop (places.length - exponent.natAbs)

/-- Digits with the point behind the first one, and an exponent. -/
def exponential (run : List Char) (leading : Int) : List Char :=
  let significand := match run with
    | [] => []
    | [first] => [first]
    | first :: rest => first :: '.' :: rest
  significand ++ 'e' :: signedDigits leading

/-- The digits of a number without the zeros at their end, which its exponent makes up for. -/
def Scientific.normal (number : Scientific) : List Char × Int :=
  let run := digits number.significand
  let zeros := (run.reverse.takeWhile (· == '0')).length
  (run.take (run.length - zeros), number.exponent + zeros)

/-- The magnitude of a finite number in writing, with the fewest digits that tell it from its
neighbours. -/
def magnitudeText (format : FloatFormat) (units : Nat) : List Char :=
  if units = 0 then ['0', '.', '0']
  else
    let (run, exponent) := (shortest format units).normal
    let leading := exponent + run.length - 1
    if isPositional leading then positional run exponent else exponential run leading

/-- A floating-point number in writing. -/
def text : Floating format → List Char
  | nan => ['N', 'a', 'N']
  | infinite negative => if negative then ['-', 'i', 'n', 'f'] else ['i', 'n', 'f']
  | finite negative units _ =>
      if negative then '-' :: magnitudeText format units else magnitudeText format units

/-- The number nearest to some digits times a power of ten. A power beyond the format is not
computed. -/
def ofScientific (negative : Bool) (number : Nat) (exponent : Int) : Floating format :=
  let leading := exponent + (digits number).length
  if number = 0 ∨ leading < -format.unitBits then signedZero negative
  else if format.width < leading then infinite negative
  else
    ofRatio negative (number * 10 ^ exponent.toNat * format.one) (10 ^ (-exponent).toNat)

/-- The exponent at the end of a number: none, or a mark and digits with or without a sign. -/
def readExponent? : List Char → Option Int
  | [] => some 0
  | char :: rest => if char = 'e' ∨ char = 'E' then readInteger? rest else none

/-- The value of a text without a sign that is a number: digits with or without a point
among them, and an exponent. -/
def readMagnitude? (negative : Bool) (text : List Char) : Option (Floating format) := do
  let (whole, rest) := text.span Char.isDigit
  let (places, rest) := match rest with
    | '.' :: behind => behind.span Char.isDigit
    | _ => ([], rest)
  let exponent ← readExponent? rest
  if whole = [] ∧ places = [] then none
  else some (ofScientific negative (numberOf (whole ++ places)) (exponent - places.length))

/-- Reads a floating-point number behind its sign, which may be spelled out if it is not finite. -/
def readUnsigned? (negative : Bool) (text : List Char) : Option (Floating format) :=
  let word := text.map Char.toLower
  if word = ['n', 'a', 'n'] then some nan
  else if word = ['i', 'n', 'f'] ∨ word = ['i', 'n', 'f', 'i', 'n', 'i', 't', 'y'] then
    some (infinite negative)
  else readMagnitude? negative text

/-- Reads a floating-point number. -/
def read? : List Char → Option (Floating format)
  | '-' :: rest => readUnsigned? true rest
  | '+' :: rest => readUnsigned? false rest
  | text => readUnsigned? false text

end SqlScalar.Floating
