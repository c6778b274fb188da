/-! # Digits

Natural numbers as runs of decimal digits, written with or without leading zeros and read
back from the front of a text. Bytes are written as two lower-case hexadecimal digits each.
Reading them takes pieces of two characters, each a number in base sixteen with an optional
plus sign in front.
-/

namespace SqlScalar.Text

/-- A natural number in decimal digits, without leading zeros. -/
def digits (number : Nat) : List Char :=
  Nat.toDigits 10 number

/-- An integer in decimal digits, with a minus sign in front of a negative one. -/
def signedDigits (number : Int) : List Char :=
  if number < 0 then '-' :: digits number.natAbs else digits number.natAbs

/-- A text with zeros in front of it up to a width. -/
def padZeros (width : Nat) (text : List Char) : List Char :=
  List.replicate (width - text.length) '0' ++ text

/-- The value of a decimal digit. -/
def digitValue (char : Char) : Nat :=
  char.toNat - '0'.toNat

/-- The number that a run of digits stands for. -/
def numberOf (run : List Char) : Nat :=
  Nat.ofDigitChars 10 run 0

/-- The longest run of digits at the front of a text, but no more than `limit` of them,
and the text behind it. -/
def takeDigits : (limit : Nat) → List Char → List Char × List Char
  | limit + 1, char :: rest =>
      if char.isDigit then
        let (run, behind) := takeDigits limit rest
        (char :: run, behind)
      else ([], char :: rest)
  | _, text => ([], text)

/-- The number at the front of a text, of at least one and at most `limit` digits. -/
def readNumber? (limit : Nat) (text : List Char) : Option (Nat × List Char) :=
  match takeDigits limit text with
  | ([], _) => none
  | (run, behind) => some (numberOf run, behind)

/-- The integer a text stands for: digits alone, or digits behind a sign. -/
def readInteger? : List Char → Option Int
  | '-' :: run => if run ≠ [] ∧ run.all Char.isDigit then some (-(numberOf run : Int)) else none
  | '+' :: run => if run ≠ [] ∧ run.all Char.isDigit then some (numberOf run) else none
  | run => if run ≠ [] ∧ run.all Char.isDigit then some (numberOf run) else none

theorem numberOf_digits (number : Nat) : numberOf (digits number) = number :=
  Nat.ofDigitChars_toDigits (by decide) (by decide)

end SqlScalar.Text

namespace SqlScalar.Text.Hex

/-- The hexadecimal digit with a value, in small letters. -/
def digit (value : Nat) : Char :=
  if value < 10 then Char.ofNat (48 + value) else Char.ofNat (87 + value)

/-- A byte as two hexadecimal digits. -/
def ofByte (byte : UInt8) : List Char :=
  [digit (byte.toNat / 16), digit (byte.toNat % 16)]

/-- Bytes as hexadecimal digits, two for each. -/
def write (bytes : List UInt8) : List Char :=
  bytes.flatMap ofByte

/-- The value of a hexadecimal digit, in small or capital letters. -/
def digitValue? (char : Char) : Option Nat :=
  let code := char.toNat
  if 48 ≤ code ∧ code ≤ 57 then some (code - 48)
  else if 97 ≤ code ∧ code ≤ 102 then some (code - 87)
  else if 65 ≤ code ∧ code ≤ 70 then some (code - 55)
  else none

/-- The byte a piece of two characters stands for: two digits, or a plus sign and one. -/
def byte? (first second : Char) : Option UInt8 :=
  match digitValue? first, digitValue? second with
  | some high, some low => some (UInt8.ofNat (16 * high + low))
  | none, some low => if first = '+' then some (UInt8.ofNat low) else none
  | _, none => none

/-- The bytes that are written as pairs of hexadecimal digits. -/
def read? : List Char → Option (List UInt8)
  | [] => some []
  | [_] => none
  | first :: second :: rest => do
      let byte ← byte? first second
      let bytes ← read? rest
      some (byte :: bytes)

end SqlScalar.Text.Hex
