import SqlScalar.Proofs.EvaluationTyping

/-! # Dated values

A date and a timestamp stand for an instant, which is what the date functions work on: a sum of
dates is the instant reached by adding units, and a difference counts the units between two
instants, whichever of the two types the arguments have.
-/

namespace SqlScalar

open Calendar

/-- A date or a timestamp that is a given instant when it is compared as a timestamp. -/
structure Value.Denotes (value : Value) (instant : Timestamp) : Prop where
  dated : value.type.hasDate = true
  converts : value.convertTo .timestamp = .ok (.timestamp instant)

namespace Value

variable {value other : Value} {instant : Timestamp}

theorem denotes_date (day : Date) : (date day).Denotes (.atMidnight day) :=
  ⟨rfl, rfl⟩

theorem denotes_timestamp (instant : Timestamp) : (timestamp instant).Denotes instant :=
  ⟨rfl, rfl⟩

namespace Denotes

/-- What denotes an instant is a date that begins then or the timestamp. -/
theorem eq_date_or_timestamp (denotes : value.Denotes instant) :
    (∃ day, value = date day ∧ instant = .atMidnight day) ∨ value = timestamp instant := by
  obtain ⟨dated, converts⟩ := denotes
  cases value with
  | date day =>
      cases converts
      exact .inl ⟨day, rfl, rfl⟩
  | timestamp held =>
      cases converts
      exact .inr rfl
  | _ => cases dated

theorem present (denotes : value.Denotes instant) : value.isNull = false := by
  rcases denotes.eq_date_or_timestamp with ⟨_, rfl, _⟩ | rfl
  · rfl
  · rfl

/-- Of each type only one value denotes an instant. -/
theorem eq_of_type (denotes : value.Denotes instant) (otherDenotes : other.Denotes instant)
    (sameType : value.type = other.type) : value = other := by
  rcases denotes.eq_date_or_timestamp with ⟨day, rfl, rfl⟩ | rfl
  · rcases otherDenotes.eq_date_or_timestamp with ⟨otherDay, rfl, sameMidnight⟩ | rfl
    · cases sameMidnight
      rfl
    · cases sameType
  · rcases otherDenotes.eq_date_or_timestamp with ⟨_, rfl, _⟩ | rfl
    · cases sameType
    · rfl

end Denotes

end Value

namespace DateFunction

variable {type : DataType} {unit : TimeUnit} {result : Value}

/-- Units are added to an instant that can be moved by them, and the result is of the type
wanted. -/
theorem addUnits_eq_ok {count : Int64} {instant : Timestamp} :
    addUnits type unit count instant = .ok result ↔
      ∃ moved, unit.add count.toInt instant = some moved ∧
        (Value.timestamp moved).convertTo type = .ok result := by
  unfold addUnits
  constructor
  · intro moves
    split at moves
    · rename_i moved added
      exact ⟨moved, added, moves⟩
    · cases moves
  · rintro ⟨moved, added, converts⟩
    rw [added]
    exact converts

/-- A sum of dates is computed by adding as many units as the number of them is rounded to. -/
theorem evaluateIn_dateAdd_eq_ok {number moment : Value} {instant : Timestamp}
    (present : number.isNull = false) (denotes : moment.Denotes instant) :
    dateAdd.evaluateIn type unit (.ok number) (.ok moment) = .ok result ↔
      ∃ count, number.convertTo .bigint = .ok (.bigint count) ∧
        addUnits type unit count instant = .ok result := by
  constructor
  · intro evaluates
    obtain ⟨_, first, _, second, numberIs, counts, momentIs, converts, combines⟩ :=
      evaluateIn_eq_ok.mp evaluates
    cases numberIs
    cases momentIs
    rw [denotes.converts] at converts
    cases converts
    have wholeType : first.type = .bigint := Value.convertTo_type_of_present present rfl counts
    cases first <;> cases wholeType
    exact ⟨_, counts, combines⟩
  · rintro ⟨count, counts, moves⟩
    exact evaluateIn_eq_ok.mpr ⟨_, _, _, _, rfl, counts, rfl, denotes.converts, moves⟩

/-- The difference of values that denote instants is the number of units between the two. -/
theorem evaluateIn_dateDiff {start finish : Value} {startInstant finishInstant : Timestamp}
    (startDenotes : start.Denotes startInstant) (finishDenotes : finish.Denotes finishInstant) :
    dateDiff.evaluateIn type unit (.ok start) (.ok finish) =
      .ok (.bigint (Int64.ofInt (unit.between startInstant finishInstant))) :=
  evaluateIn_eq_ok.mpr
    ⟨_, _, _, _, rfl, startDenotes.converts, rfl, finishDenotes.converts, rfl⟩

end DateFunction

end SqlScalar
