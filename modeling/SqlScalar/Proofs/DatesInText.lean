import SqlScalar.Proofs.ValueTyping

/-! # Dates in a text

A text shows a date alone or with a time of day behind it. The date is taken by one reader either
way, and where it takes up the whole text there is no time of day left to take. So the texts that
show a date are those that show an instant, whichever is looked for first, and the date is that of
the instant.
-/

namespace SqlScalar

open Calendar

namespace Calendar

namespace Reading

variable {separator : Reader Unit} {time : Reader TimeOfDay} {text : List Char} {day : Date}

/-- A text that is a date and nothing else is read as that date. -/
theorem date_of_bareDate? (bare : bareDate? text = some day) : date text = some (day, []) := by
  unfold bareDate? whole at bare
  split at bare
  · rename_i taken
    cases bare
    exact taken
  · cases bare

/-- Behind a date that takes up the whole text there is no time of day. -/
theorem dateAnd_of_bareDate? (bare : bareDate? text = some day)
    (lacks : ∀ behind, separator [] = some ((), behind) → time behind = none) :
    dateAnd separator time text = none := by
  have taken := date_of_bareDate? bare
  simp only [dateAnd, taken, Option.bind_eq_bind, Option.bind_some, Option.bind_eq_none_iff]
  rintro ⟨_, behind⟩ separates found timeIs
  rw [lacks behind separates] at timeIs
  cases timeIs

/-- No layout of a date with a time of day fits a text that is a date alone. -/
theorem dateTime?_of_bareDate? (bare : bareDate? text = some day) : dateTime? text = none := by
  have spaced {time : Reader TimeOfDay} (lacks : time [] = none) :
      dateAnd blanks time text = none := by
    apply dateAnd_of_bareDate? bare
    rintro _ ⟨⟩
    exact lacks
  have marked : dateAnd (mark 'T') timeToFraction text = none :=
    dateAnd_of_bareDate? bare nofun
  have fraction : timeToFraction [] = none := rfl
  have minute : timeToMinute [] = none := rfl
  simp only [dateTime?, whole, spaced fraction, spaced minute, marked]
  rfl

end Reading

/-- The date a text shows is that of the instant it shows. -/
theorem Date.read?_eq_map (text : List Char) :
    Date.read? text = (Timestamp.read? text).map Timestamp.date := by
  unfold Date.read?
  cases bare : Reading.bareDate? text with
  | none => rfl
  | some day =>
      rw [Timestamp.read?, Reading.dateTime?_of_bareDate? bare, bare]
      rfl

end Calendar

namespace Value

variable {text : String} {result : Value}

/-- A string converts to the date that is read from it without the blanks around it. -/
theorem convertTo_date_varchar_eq_ok : (varchar text).convertTo .date = .ok result ↔
    ∃ day, Date.read? (trimmed text) = some day ∧ date day = result :=
  converted_eq_ok.trans Option.map_eq_some_iff

/-- A string converts to the timestamp that is read from it without the blanks around it. -/
theorem convertTo_timestamp_varchar_eq_ok : (varchar text).convertTo .timestamp = .ok result ↔
    ∃ instant, Timestamp.read? (trimmed text) = some instant ∧ timestamp instant = result :=
  converted_eq_ok.trans Option.map_eq_some_iff

/-- A string converts to a date just if it converts to a timestamp, and the date is what that
timestamp converts to. -/
theorem convertTo_date_through_timestamp (text : String) :
    ((∃ day, (varchar text).convertTo .date = .ok day) ↔
      ∃ instant, (varchar text).convertTo .timestamp = .ok instant) ∧
    ∀ day, (varchar text).convertTo .date = .ok day ↔
      ∃ instant, (varchar text).convertTo .timestamp = .ok instant ∧
        instant.convertTo .date = .ok day := by
  have agree (day : Value) : (varchar text).convertTo .date = .ok day ↔
      ∃ instant, (varchar text).convertTo .timestamp = .ok instant ∧
        instant.convertTo .date = .ok day := by
    simp only [convertTo_date_varchar_eq_ok, convertTo_timestamp_varchar_eq_ok, Date.read?_eq_map,
      Option.map_eq_some_iff]
    constructor
    · rintro ⟨_, ⟨instant, shown, rfl⟩, rfl⟩
      exact ⟨_, ⟨instant, shown, rfl⟩, rfl⟩
    · rintro ⟨_, ⟨instant, shown, rfl⟩, converts⟩
      cases converts
      exact ⟨_, ⟨instant, shown, rfl⟩, rfl⟩
  refine ⟨?_, agree⟩
  constructor
  · rintro ⟨day, converts⟩
    obtain ⟨instant, shown, _⟩ := (agree day).mp converts
    exact ⟨instant, shown⟩
  · rintro ⟨instant, converts⟩
    obtain ⟨found, _, rfl⟩ := convertTo_timestamp_varchar_eq_ok.mp converts
    exact ⟨date found.date, (agree _).mpr ⟨_, converts, rfl⟩⟩

/-- A day and an hour need nothing between them, and the day is read from such a text as it is. A
text with an hour alone is no date, so it is no timestamp either. -/
theorem convertTo_date_of_day_beside_hour :
    let joined : Value := varchar " +1970-1- 0212:30"
    let day : Calendar.Date := ⟨719164, by decide, by decide⟩
    joined.convertTo .timestamp =
        .ok (timestamp ⟨day, ⟨45000, 0, by decide, by decide, by decide⟩⟩) ∧
      joined.convertTo .date = .ok (date day) ∧
      ¬ ∃ instant, (varchar "12:30").convertTo .timestamp = .ok instant := by
  intro joined day
  obtain ⟨_, dates⟩ := convertTo_date_through_timestamp " +1970-1- 0212:30"
  obtain ⟨converts, _⟩ := convertTo_date_through_timestamp "12:30"
  have isTimestamp : joined.convertTo .timestamp =
      .ok (timestamp ⟨day, ⟨45000, 0, by decide, by decide, by decide⟩⟩) := rfl
  refine ⟨isTimestamp, (dates _).mpr ⟨_, isTimestamp, rfl⟩, ?_⟩
  rw [← converts]
  rintro ⟨_, ⟨⟩⟩

end Value

end SqlScalar
