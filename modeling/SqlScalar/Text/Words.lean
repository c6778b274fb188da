/-! # Words

Blanks are the characters with the `White_Space` property, and a run of them is removed at
either end of a text. Words of a command language are written in ASCII letters and compared
without regard to case. Upper-casing follows the Unicode case mapping as far as an ASCII
word can tell: besides the ASCII letters, ten characters have an upper-case form made of
ASCII letters alone. Every other character keeps at least one character outside ASCII, so it
is left as it is.
-/

namespace SqlScalar.Text

/-- Whether a character is white space. -/
def isBlank (char : Char) : Bool :=
  let code := char.toNat
  (0x09 ≤ code && code ≤ 0x0D) || code == 0x20 || code == 0x85 || code == 0xA0 ||
    code == 0x1680 || (0x2000 ≤ code && code ≤ 0x200A) || code == 0x2028 ||
    code == 0x2029 || code == 0x202F || code == 0x205F || code == 0x3000

/-- A text without the blanks in front of it. -/
def skipBlanks (text : List Char) : List Char :=
  text.dropWhile isBlank

/-- A text without the blanks behind it. -/
def dropTrailingBlanks (text : List Char) : List Char :=
  (text.reverse.dropWhile isBlank).reverse

/-- The text between its first and its last character that is not blank. -/
def trim (text : List Char) : List Char :=
  dropTrailingBlanks (skipBlanks text)

/-- A text that starts with a character that is not blank is left as it is. -/
theorem skipBlanks_cons_of_not_blank {char : Char} (rest : List Char)
    (visible : isBlank char = false) : skipBlanks (char :: rest) = char :: rest := by
  simp [skipBlanks, visible]

/-- The upper-case form of a character, as far as an ASCII word can tell. -/
def upperForm (char : Char) : List Char :=
  if char.toNat < 0x80 then [char.toUpper]
  else if char = '\u00DF' then ['S', 'S']
  else if char = '\u0131' then ['I']
  else if char = '\u017F' then ['S']
  else if char = '\uFB00' then ['F', 'F']
  else if char = '\uFB01' then ['F', 'I']
  else if char = '\uFB02' then ['F', 'L']
  else if char = '\uFB03' then ['F', 'F', 'I']
  else if char = '\uFB04' then ['F', 'F', 'L']
  else if char = '\uFB05' then ['S', 'T']
  else if char = '\uFB06' then ['S', 'T']
  else [char]

/-- The upper-case form of a text, as far as an ASCII word can tell. -/
def upper (text : List Char) : List Char :=
  text.flatMap upperForm

/-- The upper-case form of a string, as far as an ASCII word can tell. -/
def upperWord (word : String) : String :=
  String.ofList (upper word.toList)

/-- The string with its ASCII letters in upper case and all else unchanged. -/
def foldAsciiCase (word : String) : String :=
  String.ofList (word.toList.map Char.toUpper)

/-- Whether two names are the same but for the case of their ASCII letters. -/
def sameName (left right : String) : Bool :=
  foldAsciiCase left == foldAsciiCase right

end SqlScalar.Text
