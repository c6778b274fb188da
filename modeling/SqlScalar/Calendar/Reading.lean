import SqlScalar.Calendar.Timestamp
import SqlScalar.Integer
import SqlScalar.Text.Words
import SqlScalar.Text.Digits

/-! # Reading dates and times

Dates and times are read by their layout: numbers of a largest width with marks between
them. Blanks may stand in front of every number, and where the layout has a space there
may be any number of blanks, or none. A year with a sign may be of any width.
-/

namespace SqlScalar.Calendar.Reading

open Text

/-- A reader takes something from the front of a text and leaves the text behind it. -/
abbrev Reader (Result : Type) := List Char → Option (Result × List Char)

/-- Takes off a character that has to be there. -/
def mark (wanted : Char) : Reader Unit
  | char :: rest => if char = wanted then some ((), rest) else none
  | [] => none

/-- Takes a number of one or two digits, with blanks in front. -/
def shortNumber : Reader Nat := fun text =>
  readNumber? 2 (skipBlanks text)

/-- Takes a year: up to four digits, or a sign and any number of digits. -/
def year : Reader Int := fun text =>
  match skipBlanks text with
  | '-' :: rest =>
      (readNumber? rest.length rest).map fun (number, behind) => (-(number : Int), behind)
  | '+' :: rest =>
      (readNumber? rest.length rest).map fun (number, behind) => ((number : Int), behind)
  | rest => (readNumber? 4 rest).map fun (number, behind) => ((number : Int), behind)

/-- Takes a date: year, month and day with hyphens between them. -/
def date : Reader Date := fun text => do
  let (year, text) ← year text
  let (_, text) ← mark '-' text
  let (month, text) ← shortNumber text
  let (_, text) ← mark '-' text
  let (day, text) ← shortNumber text
  let date ← Date.ofCivil? year month day
  some (date, text)

/-- Takes a fraction of a second in nanoseconds, if there is one. Nine digits count, and
the digits behind them are passed over. -/
def fraction : Reader Nat
  | '.' :: rest => do
      let (run, behind) := takeDigits 9 rest
      if run = [] then none
      else some (numberOf run * 10 ^ (9 - run.length), behind.dropWhile Char.isDigit)
  | text => some (0, text)

/-- The time of day on a clock that may show a second 60, which is a leap second. -/
def clockTime? (hour minute second nano : Nat) : Option TimeOfDay :=
  if second = 60 then TimeOfDay.ofClock? hour minute 59 (nano + nanosPerSecond)
  else TimeOfDay.ofClock? hour minute second nano

/-- An hour and a minute with a colon between them. -/
def minutes : Reader (Nat × Nat) := fun text => do
  let (hour, text) ← shortNumber text
  let (_, text) ← mark ':' text
  let (minute, text) ← shortNumber text
  some ((hour, minute), text)

/-- A time of day that is given to the minute. -/
def timeToMinute : Reader TimeOfDay := fun text => do
  let ((hour, minute), text) ← minutes text
  let time ← clockTime? hour minute 0 0
  some (time, text)

/-- Takes a time of day to the second, with a fraction if there is one. -/
def timeToFraction : Reader TimeOfDay := fun text => do
  let ((hour, minute), text) ← minutes text
  let (_, text) ← mark ':' text
  let (second, text) ← shortNumber text
  let (nano, text) ← fraction text
  let time ← clockTime? hour minute second nano
  some (time, text)

/-- Takes a date, a separator and a time of day. -/
def dateAnd (separator : Reader Unit) (time : Reader TimeOfDay) : Reader Timestamp :=
  fun text => do
    let (date, text) ← date text
    let (_, text) ← separator text
    let (time, text) ← time text
    some (⟨date, time⟩, text)

/-- Takes any number of blanks, or none. -/
def blanks : Reader Unit := fun text =>
  some ((), skipBlanks text)

/-- What a reader takes from a text, provided it takes all of it. -/
def whole {Result : Type} (reader : Reader Result) (text : List Char) : Option Result :=
  match reader text with
  | some (result, []) => some result
  | _ => none

/-- The date a text shows, and nothing else. -/
def bareDate? (text : List Char) : Option Date :=
  whole date text

/-- A date and a time of day: with blanks or the letter T between them if the time has seconds,
and with blanks if it has none. -/
def dateTime? (text : List Char) : Option Timestamp :=
  whole (dateAnd blanks timeToFraction) text <|>
    whole (dateAnd (mark 'T') timeToFraction) text <|>
    whole (dateAnd blanks timeToMinute) text

end SqlScalar.Calendar.Reading

namespace SqlScalar.Calendar

/-- The time of day that a text shows, to the second or to the minute. -/
def TimeOfDay.read? (text : List Char) : Option TimeOfDay :=
  Reading.whole Reading.timeToFraction text <|> Reading.whole Reading.timeToMinute text

/-- The instant a text shows. A date alone is its midnight. -/
def Timestamp.read? (text : List Char) : Option Timestamp :=
  Reading.dateTime? text <|> (Reading.bareDate? text).map Timestamp.atMidnight

/-- The date a text shows, alone or with a time of day. -/
def Date.read? (text : List Char) : Option Date :=
  Reading.bareDate? text <|> (Timestamp.read? text).map Timestamp.date

end SqlScalar.Calendar
