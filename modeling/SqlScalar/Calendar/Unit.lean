import SqlScalar.Text.Words
import SqlScalar.Failure

/-! # Units of time

The units in which date arithmetic counts and the words they are written as.
-/

namespace SqlScalar.Calendar

/-- The units in which instants are moved and in which the time between them is counted. -/
inductive TimeUnit where
  | year
  | month
  | week
  | day
  | hour
  | minute
  | second
  | millisecond
deriving DecidableEq

namespace TimeUnit

/-- The units, from the longest to the shortest. -/
def all : List TimeUnit :=
  [year, month, week, day, hour, minute, second, millisecond]

/-- The name of a unit, as messages show it. -/
def name : TimeUnit → String
  | year => "Year"
  | month => "Month"
  | week => "Week"
  | day => "Day"
  | hour => "Hour"
  | minute => "Minute"
  | second => "Second"
  | millisecond => "Millisecond"

/-- The words a unit is written as, all in upper case. No word belongs to two units. -/
def spellings : TimeUnit → List String
  | year => ["YEAR", "YEARS", "YY", "YYYY"]
  | month => ["MONTH", "MONTHS", "MM", "M"]
  | week => ["WEEK", "WEEKS", "WK", "WW"]
  | day => ["DAY", "DAYS", "DD", "D"]
  | hour => ["HOUR", "HOURS", "HH"]
  | minute => ["MINUTE", "MINUTES", "MI", "N"]
  | second => ["SECOND", "SECONDS", "SS", "S"]
  | millisecond => ["MILLISECOND", "MILLISECONDS", "MS"]

/-- The unit a text names, whatever its letter case and the blanks around it. -/
def parse (text : String) : Outcome TimeUnit :=
  let word := String.ofList (Text.upper (Text.trim text.toList))
  match all.find? (fun unit => unit.spellings.contains word) with
  | some unit => .ok unit
  | none => .error (.invalidUnit text)

/-- Whether a date that is moved by a unit is a date still. -/
def keepsDate : TimeUnit → Bool
  | year | month | week | day => true
  | hour | minute | second | millisecond => false

end TimeUnit

end SqlScalar.Calendar
