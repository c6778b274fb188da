import SqlScalar.Calendar.Date
import SqlScalar.Calendar.TimeOfDay
import SqlScalar.Calendar.Unit

/-! # Timestamps

A timestamp is a date and a time of day. The distance from the start of 1970 makes it a
point on a line of nanoseconds; units of time move it along, or count the boundaries
between two of them.
-/

namespace SqlScalar.Calendar

/-- An instant, by its date and its time of day. -/
structure Timestamp where
  date : Date
  time : TimeOfDay
deriving DecidableEq

namespace Timestamp

/-- A date as the instant at which it begins. -/
def atMidnight (date : Date) : Timestamp :=
  ⟨date, .midnight⟩

/-- A time of day on the first day of 1970, so that units can be counted from it. -/
def anchored (time : TimeOfDay) : Timestamp :=
  ⟨.epoch, time⟩

/-- The number of days from the first day of 1970 to the date of an instant. -/
def daysSinceEpoch (instant : Timestamp) : Int :=
  instant.date.ordinal - Date.epoch.ordinal

/-- The nanoseconds since the beginning of 1970. -/
def sinceEpoch (instant : Timestamp) : Int :=
  instant.daysSinceEpoch * nanosPerDay + instant.time.nanoseconds

/-- The seconds since the beginning of 1970, a started one not included. -/
def seconds (instant : Timestamp) : Int :=
  instant.daysSinceEpoch * secondsPerDay + instant.time.second

/-- The milliseconds since the beginning of 1970, a started one not included. -/
def milliseconds (instant : Timestamp) : Int :=
  instant.seconds * 1000 + (instant.time.nano / 1000000 : Nat)

/-- The instant a number of nanoseconds later, or earlier for a negative number. -/
def advance (instant : Timestamp) (nanoseconds : Int) : Option Timestamp := do
  let (time, days) := instant.time.advance nanoseconds
  let date ← instant.date.addDays days
  some ⟨date, time⟩

/-- The same time of day on a date a number of months later, or earlier. -/
def addMonths (instant : Timestamp) (count : Int) : Option Timestamp := do
  let date ← instant.date.addMonths count
  some ⟨date, instant.time⟩

/-- The order of instants: by date, then by time of day. -/
def compare (left right : Timestamp) : Ordering :=
  (left.date.compare right.date).then (left.time.compare right.time)

end Timestamp

namespace TimeUnit

/-- How a unit moves an instant. -/
inductive Step where
  /-- By calendar months. -/
  | months (count : Int)
  /-- By a length of time. -/
  | nanoseconds (count : Int)

/-- What some number of units is added as: months to the calendar, and all else to the clock. -/
def step (unit : TimeUnit) (count : Int) : Step :=
  match unit with
  | .year => .months (12 * count)
  | .month => .months count
  | .week => .nanoseconds (count * (7 * nanosPerDay))
  | .day => .nanoseconds (count * nanosPerDay)
  | .hour => .nanoseconds (count * (3600 * nanosPerSecond))
  | .minute => .nanoseconds (count * (60 * nanosPerSecond))
  | .second => .nanoseconds (count * nanosPerSecond)
  | .millisecond => .nanoseconds (count * 1000000)

/-- The instant a number of units later, unless it is beyond the calendar. -/
def add (unit : TimeUnit) (count : Int) (instant : Timestamp) : Option Timestamp :=
  match unit.step count with
  | .months months => instant.addMonths months
  | .nanoseconds nanoseconds => instant.advance nanoseconds

/-- The number of units that have begun up to an instant, from a start of the unit's own. -/
def index (unit : TimeUnit) (instant : Timestamp) : Int :=
  match unit with
  | .year => instant.date.year
  | .month => instant.date.monthIndex
  | .week => instant.date.weekIndex
  | .day => instant.date.ordinal
  | .hour => instant.seconds / 3600
  | .minute => instant.seconds / 60
  | .second => instant.seconds
  | .millisecond => instant.milliseconds

/-- The number of units that begin on the way from one instant to another. -/
def between (unit : TimeUnit) (start finish : Timestamp) : Int :=
  unit.index finish - unit.index start

end TimeUnit

end SqlScalar.Calendar
