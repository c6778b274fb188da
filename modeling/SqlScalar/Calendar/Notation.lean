import SqlScalar.Calendar.Timestamp
import SqlScalar.Text.Digits

/-! # Written dates and times

A date is written as year, month and day joined by hyphens. A year outside 0 to 9999 has a
sign. A time of day is written as hour, minute and second joined by colons, with a
fraction of three, six or nine digits unless it is zero; a leap second is second 60.
-/

namespace SqlScalar.Calendar

open Text

/-- A number as two digits, or more if it has more. -/
def twoDigits (number : Nat) : List Char :=
  padZeros 2 (digits number)

/-- A year: four digits, and a sign unless the year lies between 0 and 9999. -/
def yearText (year : Int) : List Char :=
  let places := padZeros 4 (digits year.natAbs)
  if year < 0 then '-' :: places
  else if 9999 < year then '+' :: places
  else places

/-- A date as year, month and day with a hyphen between them. -/
def Date.text (date : Date) : List Char :=
  yearText date.year ++ '-' :: twoDigits date.month.toNat ++ '-' :: twoDigits date.day.toNat

/-- The fraction of a second as written: milliseconds, microseconds or nanoseconds. -/
def fractionText (nano : Nat) : List Char :=
  if nano = 0 then []
  else if nano % 1000000 = 0 then '.' :: padZeros 3 (digits (nano / 1000000))
  else if nano % 1000 = 0 then '.' :: padZeros 6 (digits (nano / 1000))
  else '.' :: padZeros 9 (digits nano)

/-- A time of day as hour, minute, second and a fraction if it has one. A leap second is written
as the sixty-first of its minute. -/
def TimeOfDay.text (time : TimeOfDay) : List Char :=
  let second := time.second % 60 + time.nano / nanosPerSecond
  twoDigits (time.second / 3600) ++ ':' :: twoDigits (time.second / 60 % 60) ++
    ':' :: twoDigits second ++ fractionText (time.nano % nanosPerSecond)

/-- An instant as written: its date and its time of day with a space between them. -/
def Timestamp.text (instant : Timestamp) : List Char :=
  instant.date.text ++ ' ' :: instant.time.text

end SqlScalar.Calendar
