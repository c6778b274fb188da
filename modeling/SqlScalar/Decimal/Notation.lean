import SqlScalar.Decimal.Basic
import SqlScalar.Text.Digits

/-! # Written decimal numbers

A decimal number is written with all digits of its scale behind the point. Reading takes
digits around one point, with low lines between them, and rounds what is beyond the range
of a decimal number; an exponent may follow.
-/

namespace SqlScalar.Decimal

open Text

/-- The digits of a number with a given scale, with a point if there are digits behind it. -/
def pointed (mantissa scale : Nat) : List Char :=
  let places := padZeros (scale + 1) (digits mantissa)
  if scale = 0 then places
  else places.take (places.length - scale) ++ '.' :: places.drop (places.length - scale)

/-- A decimal number in writing. The sign of a negative zero is shown. -/
def text (number : Decimal) : List Char :=
  let magnitude := pointed number.mantissa number.scale
  if number.negative then '-' :: magnitude else magnitude

/-- The number of digits of the mantissa. -/
def precision (number : Decimal) : Nat :=
  (digits number.mantissa).length

/-- What has been read of a number: its digits and how many of them are behind the point. -/
structure Digits where
  mantissa : Nat
  scale : Nat

/-- Mantissas below this number take another digit within 64 bits, with a margin. -/
def wordLimit : Nat := (2 ^ (64 : Nat) - 1) / 10 - 255

/-- Whether more digits have been read than surely fit 64 bits, not counting the last. -/
def Digits.isLong (read : Digits) : Bool :=
  wordLimit ≤ read.mantissa / 10

/-- The digit at the front of digits and low lines by which the number before them is
rounded. Low lines in front of it are passed over in a long number, and stand for zero in
any other. -/
def Digits.decidingDigit (read : Digits) (tail : List Char) : Nat :=
  match (if read.isLong then tail.dropWhile (· == '_') else tail) with
  | [] => 0
  | char :: _ => if char = '_' then 0 else digitValue char

/-- The number rounded half up by the digit behind it. If a mantissa becomes too large by
that, its last digit is rounded away. -/
def Digits.roundBy? (read : Digits) (digit : Nat) : Option Digits :=
  if digit < 5 then some read
  else if read.mantissa + 1 < mantissaLimit then some { read with mantissa := read.mantissa + 1 }
  else if read.scale = 0 then none
  else some ⟨(read.mantissa + 5) / 10, read.scale - 1⟩

/-- Ends reading in front of digits there is no room for. The number is rounded by the
first of them, and nothing but digits and low lines may follow. -/
def Digits.roundOff? (read : Digits) (tail : List Char) : Option Digits :=
  if tail.all (fun char => char.isDigit || char == '_') then
    read.roundBy? (read.decidingDigit tail)
  else none

/-- Reads digits, one point and low lines behind the first digit. Without a point, a digit
too many is an error. -/
def readDigits? (point started : Bool) (read : Digits) : List Char → Option Digits
  | [] => if started then some read else none
  | char :: rest =>
      if maxScale ≤ read.scale then read.roundOff? (char :: rest)
      else if char.isDigit then
        let longer := 10 * read.mantissa + digitValue char
        if longer < mantissaLimit then
          readDigits? point true ⟨longer, if point then read.scale + 1 else 0⟩ rest
        else if point then read.roundOff? (char :: rest)
        else none
      else if char = '.' ∧ !point then readDigits? true started read rest
      else if char = '_' ∧ started then readDigits? point started read rest
      else none

/-- Reads a decimal number without an exponent. -/
def readPlain? : List Char → Option Decimal
  | '-' :: rest => do
      let read ← readDigits? false false ⟨0, 0⟩ rest
      ofResult? true read.mantissa read.scale
  | '+' :: rest => do
      let read ← readDigits? false false ⟨0, 0⟩ rest
      ofResult? false read.mantissa read.scale
  | text => do
      let read ← readDigits? false false ⟨0, 0⟩ text
      ofResult? false read.mantissa read.scale

/-- A decimal number times a power of ten, if it keeps its digits. The scale gets smaller
as long as it can. -/
def shiftLeft? (number : Decimal) (places : Nat) : Option Decimal :=
  if places ≤ number.scale then
    ofParts? number.negative number.mantissa (number.scale - places)
  else if places ≤ maxScale then
    ofParts? number.negative (number.mantissa * 10 ^ (places - number.scale)) 0
  else none

/-- A decimal number divided by a power of ten, if that is not below the last digit a
decimal number can have. Digits there is no room for are rounded away, half away from
zero. -/
def shiftRight? (number : Decimal) (places : Nat) : Option Decimal :=
  let scale := number.scale + places
  if maxScale < places then none
  else if scale ≤ maxScale then ofParts? number.negative number.mantissa scale
  else
    ofParts? number.negative (roundHalfUp number.mantissa (10 ^ (scale - maxScale))) maxScale

/-- The number a run of digits stands for, with or without a plus sign. -/
def readPlaces? : List Char → Option Nat
  | '+' :: run => if run ≠ [] ∧ run.all Char.isDigit then some (numberOf run) else none
  | run => if run ≠ [] ∧ run.all Char.isDigit then some (numberOf run) else none

/-- Reads a decimal number with an exponent, which moves the point. -/
def readScientific? (text : List Char) : Option Decimal := do
  let (base, rest) := text.span (fun char => char != 'e' && char != 'E')
  let number ← readPlain? base
  match rest with
  | [] => none
  | _ :: '-' :: exponent => number.shiftRight? (← readPlaces? exponent)
  | _ :: exponent => number.shiftLeft? (← readPlaces? exponent)

/-- Reads a decimal number, with an exponent or without one. -/
def read? (text : List Char) : Option Decimal :=
  readPlain? text <|> readScientific? text

end SqlScalar.Decimal
