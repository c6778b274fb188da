import SqlScalar.Calendar.Timestamp
import SqlScalar.Proofs.CivilDates

/-! # The line of instants

An instant outside a leap second is determined by its distance from the start of 1970. A length
of time moves such an instant along the line by that many nanoseconds, so that the opposite
length leads back, and the units of a fixed length count how many of them fit between an origin
and an instant.
-/

namespace SqlScalar.Calendar

namespace TimeOfDay

variable {time other : TimeOfDay}

theorem nano_lt_of_sharp (sharp : time.isLeap = false) : time.nano < nanosPerSecond :=
  Nat.lt_of_not_le (of_decide_eq_false sharp)

theorem nanoseconds_nonneg (time : TimeOfDay) : 0 ≤ time.nanoseconds := by
  simp only [nanoseconds, nanosPerSecond]
  omega

/-- Outside a leap second a time of day lies within the nanoseconds of a day. -/
theorem nanoseconds_lt (sharp : time.isLeap = false) : time.nanoseconds < nanosPerDay := by
  have second_lt := time.second_lt
  have nano_lt := nano_lt_of_sharp sharp
  simp only [nanoseconds, nanosPerDay, secondsPerDay, nanosPerSecond] at *
  omega

/-- Outside leap seconds a time of day is determined by its distance from midnight. -/
theorem eq_of_nanoseconds (sharp : time.isLeap = false) (otherSharp : other.isLeap = false)
    (same : time.nanoseconds = other.nanoseconds) : time = other := by
  have nano_lt := nano_lt_of_sharp sharp
  have other_nano_lt := nano_lt_of_sharp otherSharp
  simp only [nanoseconds, nanosPerSecond] at *
  have sameSecond : time.second = other.second := by omega
  have sameNano : time.nano = other.nano := by omega
  cases time
  cases other
  cases sameSecond
  cases sameNano
  rfl

/-- Outside leap seconds a time of day is moved by nanoseconds alone, and the days they come to
are carried over. -/
theorem advance_of_sharp (sharp : time.isLeap = false) (count : Int) :
    time.advance count =
      (ofNanoseconds (time.nanoseconds + count), (time.nanoseconds + count) / nanosPerDay) := by
  unfold advance
  rw [dif_neg]
  rintro ⟨leap, _⟩
  rw [sharp] at leap
  cases leap

end TimeOfDay

namespace Timestamp

variable {instant moved : Timestamp}

section Sharp

variable (sharp : instant.time.isLeap = false)

include sharp

theorem daysSinceEpoch_eq : instant.daysSinceEpoch = instant.sinceEpoch / nanosPerDay := by
  have nonneg := instant.time.nanoseconds_nonneg
  have short := TimeOfDay.nanoseconds_lt sharp
  simp only [sinceEpoch, nanosPerDay, secondsPerDay, nanosPerSecond] at *
  omega

theorem nanoseconds_eq : instant.time.nanoseconds = instant.sinceEpoch % nanosPerDay := by
  have nonneg := instant.time.nanoseconds_nonneg
  have short := TimeOfDay.nanoseconds_lt sharp
  simp only [sinceEpoch, nanosPerDay, secondsPerDay, nanosPerSecond] at *
  omega

theorem seconds_eq : instant.seconds = instant.sinceEpoch / nanosPerSecond := by
  have nano_lt := TimeOfDay.nano_lt_of_sharp sharp
  simp only [seconds, sinceEpoch, TimeOfDay.nanoseconds, nanosPerDay, secondsPerDay,
    nanosPerSecond] at *
  omega

theorem milliseconds_eq : instant.milliseconds = instant.sinceEpoch / 1000000 := by
  have nano_lt := TimeOfDay.nano_lt_of_sharp sharp
  simp only [milliseconds, seconds, sinceEpoch, TimeOfDay.nanoseconds, nanosPerDay, secondsPerDay,
    nanosPerSecond] at *
  omega

/-- Outside leap seconds an instant is determined by its distance from the start of 1970. -/
theorem eq_of_sinceEpoch (movedSharp : moved.time.isLeap = false)
    (same : moved.sinceEpoch = instant.sinceEpoch) : moved = instant := by
  have sameDays : moved.daysSinceEpoch = instant.daysSinceEpoch := by
    rw [daysSinceEpoch_eq movedSharp, daysSinceEpoch_eq sharp, same]
  have sameNanoseconds : moved.time.nanoseconds = instant.time.nanoseconds := by
    rw [nanoseconds_eq movedSharp, nanoseconds_eq sharp, same]
  have sameDate : moved.date = instant.date := by
    apply Date.eq_of_ordinal
    simp only [daysSinceEpoch] at sameDays
    omega
  have sameTime := TimeOfDay.eq_of_nanoseconds movedSharp sharp sameNanoseconds
  cases moved
  cases instant
  cases sameDate
  cases sameTime
  rfl

/-- A length of time moves an instant to the one place on the line that far away, if the calendar
reaches there. -/
theorem advance_eq_some {count : Int} : instant.advance count = some moved ↔
    moved.time.isLeap = false ∧ moved.sinceEpoch = instant.sinceEpoch + count := by
  -- The move goes to a date and a time of day, and the line determines both.
  have advances : instant.advance count = some moved ↔
      moved.date.ordinal = instant.date.ordinal + (instant.time.nanoseconds + count) / nanosPerDay ∧
        moved.time = .ofNanoseconds (instant.time.nanoseconds + count) := by
    simp only [advance, TimeOfDay.advance_of_sharp sharp, Option.bind_eq_bind,
      Option.bind_eq_some_iff, Date.addDays, Date.ofOrdinal?_eq_some, Option.some.injEq]
    constructor
    · rintro ⟨date, ordinal, rfl⟩
      exact ⟨ordinal, rfl⟩
    · rintro ⟨ordinal, time⟩
      refine ⟨moved.date, ordinal, ?_⟩
      rw [← time]
  rw [advances]
  constructor
  · rintro ⟨ordinal, time⟩
    rw [time]
    refine ⟨TimeOfDay.isLeap_ofNanoseconds _, ?_⟩
    simp only [sinceEpoch, daysSinceEpoch, ordinal, time, TimeOfDay.nanoseconds_ofNanoseconds,
      nanosPerDay, secondsPerDay, nanosPerSecond]
    omega
  · rintro ⟨movedSharp, distance⟩
    have days := daysSinceEpoch_eq movedSharp
    have clock := nanoseconds_eq movedSharp
    rw [distance] at days clock
    constructor
    · simp only [sinceEpoch, daysSinceEpoch, nanosPerDay, secondsPerDay, nanosPerSecond] at *
      omega
    · apply TimeOfDay.eq_of_nanoseconds movedSharp (TimeOfDay.isLeap_ofNanoseconds _)
      rw [TimeOfDay.nanoseconds_ofNanoseconds, clock]
      simp only [sinceEpoch, nanosPerDay, secondsPerDay, nanosPerSecond]
      omega

/-- The opposite length of time leads back. -/
theorem advance_neg {count : Int} (moves : instant.advance count = some moved) :
    moved.advance (-count) = some instant := by
  obtain ⟨movedSharp, distance⟩ := (advance_eq_some sharp).mp moves
  apply (advance_eq_some movedSharp).mpr
  refine ⟨sharp, ?_⟩
  omega

/-- The calendar has fewer than a thousand million days. -/
theorem natAbs_lt_of_advance {count : Int} (moves : instant.advance count = some moved) :
    count.natAbs < 1000000000 * nanosPerDay := by
  obtain ⟨movedSharp, distance⟩ := (advance_eq_some sharp).mp moves
  have nonneg := instant.time.nanoseconds_nonneg
  have short := TimeOfDay.nanoseconds_lt sharp
  have movedNonneg := moved.time.nanoseconds_nonneg
  have movedShort := TimeOfDay.nanoseconds_lt movedSharp
  have first := instant.date.first_le
  have last := instant.date.le_last
  have movedFirst := moved.date.first_le
  have movedLast := moved.date.le_last
  have lower : -100000000 < firstOrdinal := by decide
  have upper : lastOrdinal < 100000000 := by decide
  simp only [sinceEpoch, daysSinceEpoch, nanosPerDay, secondsPerDay, nanosPerSecond] at *
  omega

/-- A number of days moves the date by that number and leaves the time of day as it is. -/
theorem advance_days {count : Int} (moves : instant.advance (count * nanosPerDay) = some moved) :
    moved.date.ordinal = instant.date.ordinal + count ∧ moved.time = instant.time := by
  obtain ⟨movedSharp, distance⟩ := (advance_eq_some sharp).mp moves
  have days := daysSinceEpoch_eq movedSharp
  have clock := nanoseconds_eq movedSharp
  have oldDays := daysSinceEpoch_eq sharp
  have oldClock := nanoseconds_eq sharp
  rw [distance] at days clock
  constructor
  · simp only [daysSinceEpoch, nanosPerDay, secondsPerDay, nanosPerSecond] at *
    omega
  · apply TimeOfDay.eq_of_nanoseconds movedSharp sharp
    rw [clock, oldClock, Int.add_mul_emod_self_right]

end Sharp

end Timestamp

end SqlScalar.Calendar
