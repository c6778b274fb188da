import SqlScalar.Calendar.Date

/-! # Civil dates

A day given by its year, month and day of the month has just these as its views, because the
years divide the ordinals between them, and the months the days of a year. Moving a date by a
number of months therefore moves the index of its month by that number, however far its day has
to be brought back.
-/

namespace SqlScalar.Calendar

theorem leapDays_eq (year : Int) : leapDays year = 0 ∨ leapDays year = 1 := by
  unfold leapDays
  split
  · exact .inr rfl
  · exact .inl rfl

theorem daysBeforeYear_mono {year later : Int} (ordered : year ≤ later) :
    daysBeforeYear year ≤ daysBeforeYear later := by
  simp only [daysBeforeYear]
  omega

/-- A day lies in the one year that has begun before it and not ended. -/
theorem yearOfOrdinal_eq {year ordinal : Int} (begun : daysBeforeYear year < ordinal)
    (goesOn : ordinal ≤ daysBeforeYear (year + 1)) : yearOfOrdinal ordinal = year := by
  have foundBegun := daysBeforeYear_yearOfOrdinal_lt ordinal
  have foundGoesOn := le_daysBeforeYear_yearOfOrdinal_succ ordinal
  rcases Int.lt_trichotomy (yearOfOrdinal ordinal) year with earlier | same | later
  · have ended := daysBeforeYear_mono (Int.add_one_le_of_lt earlier)
    omega
  · exact same
  · have ended := daysBeforeYear_mono (Int.add_one_le_of_lt later)
    omega

section Months

variable {year month day : Int}

theorem daysBeforeMonth_nonneg (year month : Int) : 0 ≤ daysBeforeMonth year month := by
  have leap := leapDays_eq year
  unfold daysBeforeMonth
  omega

theorem daysBeforeMonth_le (year month : Int) :
    daysBeforeMonth year month ≤ 365 + leapDays year := by
  have leap := leapDays_eq year
  unfold daysBeforeMonth
  omega

theorem one_le_monthOfDay (year day : Int) : 1 ≤ monthOfDay year day := by
  unfold monthOfDay
  omega

theorem monthOfDay_le (year day : Int) : monthOfDay year day ≤ 12 := by
  unfold monthOfDay
  omega

theorem month_cases (first : 1 ≤ month) (last : month ≤ 12) :
    month = 1 ∨ month = 2 ∨ month = 3 ∨ month = 4 ∨ month = 5 ∨ month = 6 ∨
      month = 7 ∨ month = 8 ∨ month = 9 ∨ month = 10 ∨ month = 11 ∨ month = 12 := by
  omega

/-- A day of a year lies in the one month that has begun before it and not ended. -/
theorem monthOfDay_eq (first : 1 ≤ month) (last : month ≤ 12)
    (begun : daysBeforeMonth year month < day) (goesOn : day ≤ daysBeforeMonth year (month + 1)) :
    monthOfDay year day = month := by
  have leap := leapDays_eq year
  unfold monthOfDay
  rcases month_cases first last with
    rfl | rfl | rfl | rfl | rfl | rfl | rfl | rfl | rfl | rfl | rfl | rfl
  all_goals
    simp only [daysBeforeMonth, Int.reduceAdd, Int.reduceLE, Int.reduceEq, ↓reduceIte]
      at begun goesOn ⊢
    omega

/-- A day that comes no later than the end of a month lies in a month up to it. -/
theorem exists_month (first : 1 ≤ day) (count : Nat)
    (last : day ≤ daysBeforeMonth year (count + 1)) :
    ∃ month : Int, 1 ≤ month ∧ month ≤ count ∧ daysBeforeMonth year month < day ∧
      day ≤ daysBeforeMonth year (month + 1) := by
  induction count with
  | zero =>
      have none : daysBeforeMonth year ((0 : Nat) + 1) = 0 := rfl
      omega
  | succ count ih =>
      by_cases earlier : day ≤ daysBeforeMonth year (count + 1)
      · obtain ⟨month, begins, ends, within⟩ := ih earlier
        exact ⟨month, begins, by omega, within⟩
      · rw [Int.natCast_add, Int.natCast_one] at last ⊢
        exact ⟨count + 1, by omega, by omega, by omega, last⟩

/-- The month a day of a year lies in has begun before it and not ended. -/
theorem monthOfDay_begun (first : 1 ≤ day) (last : day ≤ 365 + leapDays year) :
    daysBeforeMonth year (monthOfDay year day) < day ∧
      day ≤ daysBeforeMonth year (monthOfDay year day + 1) := by
  have whole : daysBeforeMonth year ((12 : Nat) + 1) = 365 + leapDays year := rfl
  obtain ⟨month, begins, ends, begun, goesOn⟩ := exists_month first 12 (whole ▸ last)
  rw [monthOfDay_eq begins ends begun goesOn]
  exact ⟨begun, goesOn⟩

/-- No month has more than 31 days. -/
theorem monthLength_le (year : Int) (first : 1 ≤ month) (last : month ≤ 12) :
    monthLength year month ≤ 31 := by
  have leap := leapDays_eq year
  unfold monthLength
  rcases month_cases first last with
    rfl | rfl | rfl | rfl | rfl | rfl | rfl | rfl | rfl | rfl | rfl | rfl
  all_goals
    simp only [daysBeforeMonth, Int.reduceAdd, Int.reduceLE, Int.reduceEq, ↓reduceIte]
    omega

end Months

namespace Date

variable {date : Date}

/-- A date is found by its ordinal and by no other. -/
theorem ofOrdinal?_eq_some {ordinal : Int} :
    ofOrdinal? ordinal = some date ↔ date.ordinal = ordinal := by
  unfold ofOrdinal?
  constructor
  · intro found
    split at found
    · cases found
      rfl
    · cases found
  · rintro rfl
    exact dif_pos ⟨date.first_le, date.le_last⟩

theorem eq_of_ordinal {left right : Date} (same : left.ordinal = right.ordinal) :
    left = right := by
  have found := ofOrdinal?_eq_some.mpr same
  rw [ofOrdinal?_eq_some.mpr rfl] at found
  cases found
  rfl

/-- A date made of a year, a month and a day of the month has them as its views. -/
theorem civil_of_ofCivil? {year month day : Int} (found : ofCivil? year month day = some date) :
    date.year = year ∧ date.month = month ∧ date.day = day := by
  unfold ofCivil? at found
  split at found
  · rename_i valid
    obtain ⟨firstMonth, lastMonth, firstDay, lastDay⟩ := valid
    have ordinal := ofOrdinal?_eq_some.mp found
    have nonneg := daysBeforeMonth_nonneg year month
    have bounded := daysBeforeMonth_le year (month + 1)
    have nextYear := daysBeforeYear_succ year
    simp only [civilOrdinal] at ordinal
    simp only [monthLength] at lastDay
    -- Each view is taken relative to the one before.
    have yearIs : date.year = year := by
      apply yearOfOrdinal_eq <;> omega
    have dayOfYearIs : date.dayOfYear = daysBeforeMonth year month + day := by
      rw [dayOfYear, yearIs]
      omega
    have monthIs : date.month = month := by
      rw [Date.month, yearIs, dayOfYearIs]
      apply monthOfDay_eq firstMonth lastMonth <;> omega
    refine ⟨yearIs, monthIs, ?_⟩
    rw [Date.day, yearIs, monthIs, dayOfYearIs]
    omega
  · cases found

/-- The views of a date make that date. -/
theorem ofCivil?_civil (date : Date) :
    ofCivil? date.year date.month date.day = some date := by
  have begun := daysBeforeYear_yearOfOrdinal_lt date.ordinal
  have goesOn := le_daysBeforeYear_yearOfOrdinal_succ date.ordinal
  have length := daysBeforeYear_succ date.year
  change daysBeforeYear date.year < date.ordinal at begun
  change date.ordinal ≤ daysBeforeYear (date.year + 1) at goesOn
  have firstDay : 1 ≤ date.dayOfYear := by
    rw [dayOfYear]
    omega
  have lastDay : date.dayOfYear ≤ 365 + leapDays date.year := by
    rw [dayOfYear]
    omega
  obtain ⟨monthBegun, monthGoesOn⟩ := monthOfDay_begun firstDay lastDay
  change daysBeforeMonth date.year date.month < date.dayOfYear at monthBegun
  change date.dayOfYear ≤ daysBeforeMonth date.year (date.month + 1) at monthGoesOn
  have dayIs : date.day = date.dayOfYear - daysBeforeMonth date.year date.month := rfl
  unfold ofCivil?
  rw [if_pos ⟨one_le_monthOfDay _ _, monthOfDay_le _ _, by omega, by rw [monthLength]; omega⟩]
  refine ofOrdinal?_eq_some.mpr ?_
  rw [civilOrdinal, dayIs, dayOfYear]
  omega

/-- Each date has a month of the year and a day that a month can have. -/
theorem civil_bounds (date : Date) :
    (1 ≤ date.month ∧ date.month ≤ 12) ∧ 1 ≤ date.day ∧ date.day ≤ 31 := by
  have found := date.ofCivil?_civil
  unfold ofCivil? at found
  split at found
  · rename_i valid
    obtain ⟨firstMonth, lastMonth, firstDay, lastDay⟩ := valid
    have short := monthLength_le date.year firstMonth lastMonth
    exact ⟨⟨firstMonth, lastMonth⟩, firstDay, Int.le_trans lastDay short⟩
  · cases found

theorem year_eq_monthIndex (date : Date) : date.year = date.monthIndex / 12 := by
  have first : 1 ≤ date.month := one_le_monthOfDay _ _
  have last : date.month ≤ 12 := monthOfDay_le _ _
  simp only [monthIndex]
  omega

/-- A number of months later the month is that many months on. -/
theorem monthIndex_addMonths {count : Int} {moved : Date}
    (moves : date.addMonths count = some moved) : moved.monthIndex = date.monthIndex + count := by
  obtain ⟨year, month, _⟩ := civil_of_ofCivil? moves
  rw [monthIndex, year, month]
  omega

end Date

end SqlScalar.Calendar
