import SqlScalar.Calendar.Notation
import SqlScalar.Proofs.CivilDates
import SqlScalar.Proofs.ReadingDigits

/-! # Reading written dates and times

Every date, time of day and instant is read back from the text it is written as, with its years
of any sign and size, its fractions of a second and its leap seconds.
-/

namespace SqlScalar.Calendar

open Text Reading

section Numbers

variable {number : Nat}

theorem skipBlanks_padded (width number : Nat) (rest : List Char) :
    skipBlanks (padZeros width (digits number) ++ rest) = padZeros width (digits number) ++ rest :=
  skipBlanks_append (visible_padded width number) (padded_ne_nil width number) rest

/-- A number of two digits is read back whatever follows. -/
theorem shortNumber_twoDigits (below : number < 100) (rest : List Char) :
    shortNumber (twoDigits number ++ rest) = some (number, rest) := by
  rw [shortNumber, twoDigits, skipBlanks_padded]
  exact readNumber_padded (by decide) below rest

theorem isMagnitude_padded (width number : Nat) : IsMagnitude (padZeros width (digits number)) :=
  (allDigits_padZeros _ (allDigits_digits number)).isMagnitude (padded_ne_nil width number)

/-- A year with a sign is read with all its digits, and one without a sign has four of them. -/
theorem year_yearText (year : Int) {rest : List Char} (stops : NoDigit rest) :
    Reading.year (yearText year ++ rest) = some (year, rest) := by
  have signed := readNumber_unbounded 4 year.natAbs stops
  unfold yearText
  dsimp only
  by_cases negative : year < 0
  · have yearIs : -(year.natAbs : Int) = year := by omega
    rw [if_pos negative, List.cons_append, Reading.year, skipBlanks_cons_of_not_blank _ rfl]
    simp only [signed, Option.map_some, yearIs]
  · have yearIs : (year.natAbs : Int) = year := by omega
    rw [if_neg negative]
    by_cases long : 9999 < year
    · rw [if_pos long, List.cons_append, Reading.year, skipBlanks_cons_of_not_blank _ rfl]
      simp only [signed, Option.map_some, yearIs]
    · have below : year.natAbs < 10 ^ 4 := by omega
      have unsigned := readNumber_padded (by decide) below rest
      have magnitude := isMagnitude_padded 4 year.natAbs
      rw [if_neg long, Reading.year, skipBlanks_padded]
      split
      · rename_i same
        exact absurd same (magnitude.append_ne_cons rfl _ _)
      · rename_i same
        exact absurd same (magnitude.append_ne_cons rfl _ _)
      · simp only [unsigned, Option.map_some, yearIs]

end Numbers

section Texts

/-- A date is read back from its text whatever follows. -/
theorem date_text (date : Date) (rest : List Char) :
    Reading.date (date.text ++ rest) = some (date, rest) := by
  obtain ⟨⟨firstMonth, lastMonth⟩, firstDay, lastDay⟩ := date.civil_bounds
  have monthIs : (date.month.toNat : Int) = date.month := Int.toNat_of_nonneg (by omega)
  have dayIs : (date.day.toNat : Int) = date.day := Int.toNat_of_nonneg (by omega)
  have year (behind : List Char) : Reading.year (yearText date.year ++ '-' :: behind) =
      some (date.year, '-' :: behind) := year_yearText date.year (noDigit_cons rfl behind)
  have month : date.month.toNat < 100 := by omega
  have day : date.day.toNat < 100 := by omega
  simp only [Date.text, List.append_assoc, List.cons_append, Reading.date, year, mark,
    shortNumber_twoDigits month, shortNumber_twoDigits day, monthIs, dayIs, date.ofCivil?_civil,
    ↓reduceIte, Option.bind_eq_bind, Option.bind_some]

/-- A fraction of a second is read with the zeros that its text leaves out. -/
theorem fraction_fractionText {nano : Nat} (below : nano < nanosPerSecond) :
    fraction (fractionText nano) = some (nano, []) := by
  have padded {width number : Nat} (wide : 0 < width) (narrow : width ≤ 9)
      (small : number < 10 ^ width) :
      fraction ('.' :: padZeros width (digits number)) = some (number * 10 ^ (9 - width), []) := by
    have length := length_padded wide small
    have taken : takeDigits 9 (padZeros width (digits number) ++ []) = _ :=
      takeDigits_run (allDigits_padZeros width (allDigits_digits number)) (by omega)
        (.inr noDigit_nil)
    rw [List.append_nil] at taken
    simp only [fraction, taken, padded_ne_nil, numberOf_padded, length, ↓reduceIte,
      List.dropWhile_nil]
  simp only [nanosPerSecond] at below
  unfold fractionText
  by_cases zero : nano = 0
  · rw [if_pos zero, zero]
    rfl
  · rw [if_neg zero]
    by_cases millis : nano % 1000000 = 0
    · have whole : nano / 1000000 * 10 ^ (9 - 3) = nano := by omega
      rw [if_pos millis, padded (by decide) (by decide) (by omega), whole]
    · rw [if_neg millis]
      by_cases micros : nano % 1000 = 0
      · have whole : nano / 1000 * 10 ^ (9 - 6) = nano := by omega
        rw [if_pos micros, padded (by decide) (by decide) (by omega), whole]
      · rw [if_neg micros, padded (by decide) (by decide) (by omega), Nat.sub_self, Nat.pow_zero,
          Nat.mul_one]

/-- The clock shows a leap second as second 60 of its minute. -/
theorem clockTime_of_text (clock : TimeOfDay) :
    clockTime? (clock.second / 3600) (clock.second / 60 % 60)
      (clock.second % 60 + clock.nano / nanosPerSecond) (clock.nano % nanosPerSecond) =
        some clock := by
  obtain ⟨second, nano, second_lt, nano_lt, leap_at_end⟩ := clock
  have shows {shown part : Nat} (secondIs : second % 60 = shown) (nanoIs : nano = part) :
      TimeOfDay.ofClock? (second / 3600) (second / 60 % 60) shown part =
        some ⟨second, nano, second_lt, nano_lt, leap_at_end⟩ := by
    subst secondIs nanoIs
    have day := second_lt
    simp only [secondsPerDay] at day
    unfold TimeOfDay.ofClock?
    rw [dif_pos ⟨by omega, by omega, by omega, nano_lt, by omega⟩]
    congr 2
    omega
  have billion : nanosPerSecond = 1000000000 := rfl
  have carry : 1000000000 * (nano / nanosPerSecond) + nano % nanosPerSecond = nano :=
    Nat.div_add_mod nano nanosPerSecond
  have less : nano % nanosPerSecond < nanosPerSecond := Nat.mod_lt _ (by decide)
  dsimp only
  unfold clockTime?
  by_cases leap : second % 60 + nano / nanosPerSecond = 60
  · rw [if_pos leap]
    exact shows (by omega) (by omega)
  · rw [if_neg leap]
    exact shows (by omega) (by omega)

/-- A time of day is read back, with nothing left. -/
theorem timeToFraction_text (clock : TimeOfDay) : timeToFraction clock.text = some (clock, []) := by
  obtain ⟨second_lt, nano_lt⟩ := And.intro clock.second_lt clock.nano_lt
  simp only [secondsPerDay, nanosPerSecond] at second_lt nano_lt
  have hour : clock.second / 3600 < 100 := by omega
  have minute : clock.second / 60 % 60 < 100 := by omega
  have second : clock.second % 60 + clock.nano / nanosPerSecond < 100 := by
    simp only [nanosPerSecond]
    omega
  have nano : clock.nano % nanosPerSecond < nanosPerSecond := Nat.mod_lt _ (by decide)
  simp only [TimeOfDay.text, List.append_assoc, List.cons_append, timeToFraction, minutes,
    shortNumber_twoDigits hour, shortNumber_twoDigits minute, shortNumber_twoDigits second, mark,
    fraction_fractionText nano, clockTime_of_text, ↓reduceIte, Option.bind_eq_bind,
    Option.bind_some]

theorem TimeOfDay.read_text (clock : TimeOfDay) : TimeOfDay.read? clock.text = some clock := by
  simp only [TimeOfDay.read?, whole, timeToFraction_text]
  rfl

theorem Date.read_text (date : Date) : Date.read? date.text = some date := by
  have bare := date_text date []
  rw [List.append_nil] at bare
  simp only [Date.read?, bareDate?, whole, bare]
  rfl

/-- A timestamp is read back. -/
theorem Timestamp.read_text (instant : Timestamp) :
    Timestamp.read? instant.text = some instant := by
  have blank : skipBlanks (' ' :: instant.time.text) = instant.time.text := by
    change skipBlanks instant.time.text = instant.time.text
    simp only [TimeOfDay.text, twoDigits, List.append_assoc, skipBlanks_padded]
  simp only [Timestamp.read?, dateTime?, whole, dateAnd, Timestamp.text, date_text, blanks, blank,
    timeToFraction_text, Option.bind_eq_bind, Option.bind_some]
  rfl

end Texts

section Ends

/-- A year is written without blanks. -/
theorem visible_yearText (year : Int) : Visible (yearText year) := by
  have places := visible_padded 4 year.natAbs
  unfold yearText
  dsimp only
  split
  · exact places.cons rfl
  · split
    · exact places.cons rfl
    · exact places

theorem Date.visible_text (date : Date) : Visible date.text := by
  have month := visible_padded 2 date.month.toNat
  have day := visible_padded 2 date.day.toNat
  exact ((visible_yearText date.year).append (month.cons rfl)).append (day.cons rfl)

/-- A fraction of a second is written without blanks. -/
theorem visible_fractionText (nano : Nat) : Visible (fractionText nano) := by
  unfold fractionText
  split
  · exact nofun
  · split
    · exact (visible_padded 3 _).cons rfl
    · split
      · exact (visible_padded 6 _).cons rfl
      · exact (visible_padded 9 _).cons rfl

theorem TimeOfDay.visible_text (clock : TimeOfDay) : Visible clock.text := by
  have hour := visible_padded 2 (clock.second / 3600)
  have minute := visible_padded 2 (clock.second / 60 % 60)
  have second := visible_padded 2 (clock.second % 60 + clock.nano / nanosPerSecond)
  have fraction := visible_fractionText (clock.nano % nanosPerSecond)
  exact ((hour.append (minute.cons rfl)).append (second.cons rfl)).append fraction

/-- An instant has a blank inside its text, but none at the ends. -/
theorem Timestamp.trim_text (instant : Timestamp) : trim instant.text = instant.text := by
  have date : instant.date.text ≠ [] := by
    simp only [Date.text, ne_eq, List.append_eq_nil_iff, reduceCtorEq, and_false, not_false_eq_true]
  have clock : instant.time.text ≠ [] := by
    simp only [TimeOfDay.text, ne_eq, List.append_eq_nil_iff, reduceCtorEq, and_false, false_and,
      not_false_eq_true]
  have trimmed := trim_append instant.date.visible_text date instant.time.visible_text clock [' ']
  rw [List.append_assoc] at trimmed
  exact trimmed

end Ends

end SqlScalar.Calendar
