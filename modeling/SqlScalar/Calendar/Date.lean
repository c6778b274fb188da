/-! # Dates

A date of the proleptic Gregorian calendar is held as its ordinal, the number of days up
to it from the first day of year 1, which has ordinal 1. Year, month and day of the month
are views of the ordinal. Dates reach from the year -262143 to the year 262142.
-/

namespace SqlScalar.Calendar

/-- A year is a leap year if four divides it, but of full centuries only every fourth is one. -/
def isLeapYear (year : Int) : Bool :=
  year % 4 = 0 ∧ (year % 100 ≠ 0 ∨ year % 400 = 0)

/-- The number of days from the first day of year 1 to the first day of a year. -/
def daysBeforeYear (year : Int) : Int :=
  let elapsed := year - 1
  365 * elapsed + elapsed / 4 - elapsed / 100 + elapsed / 400

/-- The number of days a year has more than 365. -/
def leapDays (year : Int) : Int :=
  if isLeapYear year then 1 else 0

/-- The days of a year that have passed when a month begins. A thirteenth month begins with the
next year. -/
def daysBeforeMonth (year month : Int) : Int :=
  if month ≤ 1 then 0
  else if month = 2 then 31
  else if month = 3 then 59 + leapDays year
  else if month = 4 then 90 + leapDays year
  else if month = 5 then 120 + leapDays year
  else if month = 6 then 151 + leapDays year
  else if month = 7 then 181 + leapDays year
  else if month = 8 then 212 + leapDays year
  else if month = 9 then 243 + leapDays year
  else if month = 10 then 273 + leapDays year
  else if month = 11 then 304 + leapDays year
  else if month = 12 then 334 + leapDays year
  else 365 + leapDays year

/-- The number of days in a month. -/
def monthLength (year month : Int) : Int :=
  daysBeforeMonth year (month + 1) - daysBeforeMonth year month

/-- The year in which the day with a given ordinal lies. The mean length of a year is
146097 days in 400 years, and the year estimated from it is at most one off. -/
def yearOfOrdinal (ordinal : Int) : Int :=
  let estimate := 400 * (ordinal - 1) / 146097 + 1
  if ordinal ≤ daysBeforeYear estimate then estimate - 1
  else if daysBeforeYear (estimate + 1) < ordinal then estimate + 1
  else estimate

/-- The month in which a day of a year lies, counted from one. -/
def monthOfDay (year dayOfYear : Int) : Int :=
  if dayOfYear ≤ daysBeforeMonth year 2 then 1
  else if dayOfYear ≤ daysBeforeMonth year 3 then 2
  else if dayOfYear ≤ daysBeforeMonth year 4 then 3
  else if dayOfYear ≤ daysBeforeMonth year 5 then 4
  else if dayOfYear ≤ daysBeforeMonth year 6 then 5
  else if dayOfYear ≤ daysBeforeMonth year 7 then 6
  else if dayOfYear ≤ daysBeforeMonth year 8 then 7
  else if dayOfYear ≤ daysBeforeMonth year 9 then 8
  else if dayOfYear ≤ daysBeforeMonth year 10 then 9
  else if dayOfYear ≤ daysBeforeMonth year 11 then 10
  else if dayOfYear ≤ daysBeforeMonth year 12 then 11
  else 12

def firstYear : Int := -262143

def lastYear : Int := 262142

/-- The number of the first day there is. -/
def firstOrdinal : Int := daysBeforeYear firstYear + 1

/-- The number of the last day there is. -/
def lastOrdinal : Int := daysBeforeYear (lastYear + 1)

/-- A date, by its ordinal. -/
structure Date where
  /-- The number of days from the day before the first day of year 1. -/
  ordinal : Int
  first_le : firstOrdinal ≤ ordinal
  le_last : ordinal ≤ lastOrdinal
deriving DecidableEq

namespace Date

/-- The date with a given ordinal, unless it is beyond the calendar. -/
def ofOrdinal? (ordinal : Int) : Option Date :=
  if inRange : firstOrdinal ≤ ordinal ∧ ordinal ≤ lastOrdinal then
    some ⟨ordinal, inRange.1, inRange.2⟩
  else none

/-- The ordinal of a day given by year, month and day of the month. -/
def civilOrdinal (year month day : Int) : Int :=
  daysBeforeYear year + daysBeforeMonth year month + day

/-- The date with a given year, month and day of the month, if there is such a day. -/
def ofCivil? (year month day : Int) : Option Date :=
  if 1 ≤ month ∧ month ≤ 12 ∧ 1 ≤ day ∧ day ≤ monthLength year month then
    ofOrdinal? (civilOrdinal year month day)
  else none

/-- The year a date lies in. -/
def year (date : Date) : Int :=
  yearOfOrdinal date.ordinal

/-- The number of a date among the days of its year, from 1. -/
def dayOfYear (date : Date) : Int :=
  date.ordinal - daysBeforeYear date.year

/-- The month a date lies in, from 1. -/
def month (date : Date) : Int :=
  monthOfDay date.year date.dayOfYear

/-- The number of a date among the days of its month, from 1. -/
def day (date : Date) : Int :=
  date.dayOfYear - daysBeforeMonth date.year date.month

/-- The number of months from the first month of year 0 to the month a date lies in. -/
def monthIndex (date : Date) : Int :=
  12 * date.year + (date.month - 1)

/-- The number of whole weeks from the first day of year 1, a Monday, to a date. -/
def weekIndex (date : Date) : Int :=
  (date.ordinal - 1) / 7

/-- The date a number of days later, or earlier for a negative number. -/
def addDays (date : Date) (count : Int) : Option Date :=
  ofOrdinal? (date.ordinal + count)

/-- The date a number of months later, or earlier for a negative number. The day of the
month stays, or becomes the last day of a month that is too short for it. -/
def addMonths (date : Date) (count : Int) : Option Date :=
  let index := date.monthIndex + count
  let newYear := index / 12
  let newMonth := index % 12 + 1
  ofCivil? newYear newMonth (min date.day (monthLength newYear newMonth))

/-- The first day of 1970, on which times of day are anchored. -/
def epoch : Date where
  ordinal := 719163
  first_le := by decide
  le_last := by decide

/-- Dates are ordered as their days are counted. -/
def compare (left right : Date) : Ordering :=
  Ord.compare left.ordinal right.ordinal

end Date

/-- The day with a given ordinal lies after the end of the year before. -/
theorem daysBeforeYear_yearOfOrdinal_lt (ordinal : Int) :
    daysBeforeYear (yearOfOrdinal ordinal) < ordinal := by
  unfold yearOfOrdinal daysBeforeYear
  simp only
  split
  · omega
  · split <;> omega

/-- The day with a given ordinal lies before the start of the year after. -/
theorem le_daysBeforeYear_yearOfOrdinal_succ (ordinal : Int) :
    ordinal ≤ daysBeforeYear (yearOfOrdinal ordinal + 1) := by
  unfold yearOfOrdinal daysBeforeYear
  simp only
  split
  · omega
  · split <;> omega

/-- A year has 365 days, and one more if it is a leap year. -/
theorem daysBeforeYear_succ (year : Int) :
    daysBeforeYear (year + 1) = daysBeforeYear year + 365 + leapDays year := by
  unfold daysBeforeYear leapDays isLeapYear
  simp only [decide_eq_true_eq]
  split <;> omega

end SqlScalar.Calendar
