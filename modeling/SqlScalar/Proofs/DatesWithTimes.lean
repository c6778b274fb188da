import SqlScalar.Proofs.InstantLine
import SqlScalar.Proofs.NodeValues

/-! # Dates with times of day

A date and a time of day add up to the timestamp of that time on that date, whichever comes first,
and what is left when the time is subtracted again is midnight. The time counts by its distance
from midnight on the first day of 1970, and the date by that of its own midnight from there, so
that every date the calendar has can be reached and left again.
-/

namespace SqlScalar

open Calendar Resolution

namespace Calendar.Timestamp

variable {time : TimeOfDay}

/-- A time of day on the first day of 1970 is as far from there as from midnight. -/
theorem sinceEpoch_anchored (time : TimeOfDay) :
    (anchored time).sinceEpoch = time.nanoseconds := by
  rw [sinceEpoch, daysSinceEpoch, anchored, Int.sub_self, Int.zero_mul, Int.zero_add]

theorem sinceEpoch_eq_add (day : Date) (time : TimeOfDay) :
    (⟨day, time⟩ : Timestamp).sinceEpoch = (atMidnight day).sinceEpoch + time.nanoseconds := by
  have atStart : TimeOfDay.midnight.nanoseconds = 0 := rfl
  simp only [sinceEpoch, daysSinceEpoch, atMidnight, atStart, Int.add_zero]

/-- From the first day of 1970 a time of day is moved to the date whose distance is added. -/
theorem advance_anchored (sharp : time.isLeap = false) (day : Date) :
    (anchored time).advance (atMidnight day).sinceEpoch = some ⟨day, time⟩ := by
  have anchoredSharp : (anchored time).time.isLeap = false := sharp
  apply (advance_eq_some anchoredSharp).mpr
  refine ⟨sharp, ?_⟩
  rw [sinceEpoch_eq_add, sinceEpoch_anchored, Int.add_comm]

/-- An instant moved back by its own time of day is at midnight. -/
theorem advance_neg_anchored (sharp : time.isLeap = false) (day : Date) :
    (⟨day, time⟩ : Timestamp).advance (-(anchored time).sinceEpoch) =
      some (atMidnight day) := by
  have instantSharp : (⟨day, time⟩ : Timestamp).time.isLeap = false := sharp
  apply (advance_eq_some instantSharp).mpr
  refine ⟨rfl, ?_⟩
  rw [sinceEpoch_eq_add day time, sinceEpoch_anchored, Int.add_neg_cancel_right]

end Calendar.Timestamp

namespace Value

variable {day : Date} {time : TimeOfDay} {instant : Timestamp}

theorem convertTo_timestamp_date :
    (date day).convertTo .timestamp = .ok (timestamp (.atMidnight day)) := rfl

theorem convertTo_timestamp_time :
    (Value.time time).convertTo .timestamp = .ok (timestamp (.anchored time)) := rfl

theorem convertTo_timestamp_timestamp :
    (timestamp instant).convertTo .timestamp = .ok (timestamp instant) := rfl

theorem convertTo_date_timestamp :
    (timestamp instant).convertTo .date = .ok (date instant.date) := rfl

theorem convertTo_time_timestamp :
    (timestamp instant).convertTo .time = .ok (Value.time instant.time) := rfl

end Value

namespace BinaryOp

variable {mode : Mode} {day : Date} {time : TimeOfDay}

/-- A time of day and a date add up to that time on that date. -/
theorem evaluate_time_plus_date (sharp : time.isLeap = false) :
    (arith .plus).evaluate mode .timestamp true (.ok (.time time)) (.ok (.date day)) =
      .ok (.timestamp ⟨day, time⟩) := by
  have adds : (Value.timestamp (.anchored time)).arith .plus (.timestamp (.atMidnight day)) =
      Value.orOverflow .plus (.timestamp (.anchored time)) (.timestamp (.atMidnight day))
        (((Timestamp.anchored time).advance (Timestamp.atMidnight day).sinceEpoch).map
          .timestamp) := rfl
  rw [evaluate, ok_bind, Value.convertTo_timestamp_time, ok_bind, ok_bind, convertRight,
    if_pos rfl, Value.convertTo_timestamp_date, ok_bind]
  simp only [combine, Value.isNull, Bool.or_self, Bool.false_eq_true, ↓reduceIte]
  rw [adds, Timestamp.advance_anchored sharp]
  rfl

/-- A time of day subtracted from a timestamp on the same time leaves its midnight. -/
theorem evaluate_timestamp_minus_time (sharp : time.isLeap = false) :
    (arith .minus).evaluate mode .timestamp true (.ok (.timestamp ⟨day, time⟩))
      (.ok (.time time)) = .ok (.timestamp (.atMidnight day)) := by
  have subtracts : (Value.timestamp ⟨day, time⟩).arith .minus (.timestamp (.anchored time)) =
      Value.orOverflow .minus (.timestamp ⟨day, time⟩) (.timestamp (.anchored time))
        (((⟨day, time⟩ : Timestamp).advance (-(Timestamp.anchored time).sinceEpoch)).map
          .timestamp) := rfl
  rw [evaluate, ok_bind, Value.convertTo_timestamp_timestamp, ok_bind, ok_bind, convertRight,
    if_pos rfl, Value.convertTo_timestamp_time, ok_bind]
  simp only [combine, Value.isNull, Bool.or_self, Bool.false_eq_true, ↓reduceIte]
  rw [subtracts, Timestamp.advance_neg_anchored sharp]
  rfl

end BinaryOp

namespace Expr

/-- Whether an expression is resolved under a mode to one of a type that has a value in a
context. -/
def YieldsTyped (mode : Mode) (context : Context) (expr : Expr) (type : DataType) (value : Value) :
    Prop :=
  ∃ resolved, expr.resolve mode = .ok resolved ∧ resolved.type = type ∧
    resolved.evaluate context = .ok value

variable {mode : Mode} {context : Context} {left right : Expr} {leftType rightType type : DataType}
  {a b value : Value} {day : Date} {time : TimeOfDay}

theorem yieldsTyped_column {reference : ColumnRef} (typed : reference.type = type)
    (holds : reference.evaluate context.row = .ok value) :
    (column reference).YieldsTyped mode context type value :=
  ⟨column reference, resolve_column holds, typed, holds⟩

/-- An operation that is kept for the types of its operands has their values as its operands. -/
theorem YieldsTyped.keeps {op : ArithOp} (leftYields : left.YieldsTyped mode context leftType a)
    (rightYields : right.YieldsTyped mode context rightType b)
    (kept : Keeps op leftType rightType type)
    (evaluates : (BinaryOp.arith op).evaluate context.mode type true (.ok a) (.ok b) =
      .ok value) :
    (arith op left right).YieldsTyped mode context type value := by
  obtain ⟨left', leftIs, rfl, leftValue⟩ := leftYields
  obtain ⟨right', rightIs, rfl, rightValue⟩ := rightYields
  refine ⟨.binary (.arith op) left' right' (some type) true, ?_, rfl, ?_⟩
  · rw [resolve_arith_of_operands leftIs rightIs]
    exact operation_of_keeps kept
  · rw [evaluate, leftValue, rightValue]
    exact evaluates

/-- A time of day added to a date is the instant with both, with the time written first. -/
theorem YieldsTyped.time_plus_date (timeYields : left.YieldsTyped mode context .time (.time time))
    (dateYields : right.YieldsTyped mode context .date (.date day)) (sharp : time.isLeap = false) :
    (arith .plus left right).YieldsTyped mode context .timestamp (.timestamp ⟨day, time⟩) :=
  timeYields.keeps dateYields (.anchoredSum rfl nofun) (BinaryOp.evaluate_time_plus_date sharp)

/-- A date in front of a time of day changes places with it. -/
theorem YieldsTyped.date_plus_time (dateYields : left.YieldsTyped mode context .date (.date day))
    (timeYields : right.YieldsTyped mode context .time (.time time)) (sharp : time.isLeap = false) :
    (arith .plus left right).YieldsTyped mode context .timestamp (.timestamp ⟨day, time⟩) := by
  obtain ⟨sum, resolves, sumType, sumValue⟩ := timeYields.time_plus_date dateYields sharp
  obtain ⟨date', dateIs, dateType, _⟩ := dateYields
  obtain ⟨time', timeIs, timeType, _⟩ := timeYields
  refine ⟨sum, ?_, sumType, sumValue⟩
  rw [resolve_arith_of_operands timeIs dateIs,
    operation_of_temporal (.inr (by rw [dateType]; rfl))] at resolves
  rw [resolve_arith_of_operands dateIs timeIs,
    operation_of_temporal (.inl (by rw [dateType]; rfl)), ← resolves]
  simp only [temporal, temporalSum, dateType, timeType, DataType.preferred, DataType.rank]
  rfl

theorem YieldsTyped.timestamp_minus_time
    (instantYields : left.YieldsTyped mode context .timestamp (.timestamp ⟨day, time⟩))
    (timeYields : right.YieldsTyped mode context .time (.time time)) (sharp : time.isLeap = false) :
    (arith .minus left right).YieldsTyped mode context .timestamp (.timestamp (.atMidnight day)) :=
  instantYields.keeps timeYields (.anchoredDifference rfl)
    (BinaryOp.evaluate_timestamp_minus_time sharp)

end Expr

/-- A column of dates and a column of times of day make up a timestamp in either order, outside
leap seconds. Its parts are the date and the time, and without the time it is midnight of the
date. -/
theorem timestamp_of_date_and_time {mode : Mode} {context : Context} {date clock : ColumnRef}
    {day : Date} {time : TimeOfDay} (dateType : date.type = .date)
    (dayIs : date.evaluate context.row = .ok (.date day)) (clockType : clock.type = .time)
    (timeIs : clock.evaluate context.row = .ok (.time time)) (sharp : time.isLeap = false) :
    (Expr.arith .plus (.column date) (.column clock)).YieldsTyped mode context .timestamp
      (.timestamp ⟨day, time⟩) ∧
    (Expr.arith .plus (.column clock) (.column date)).YieldsTyped mode context .timestamp
      (.timestamp ⟨day, time⟩) ∧
    (Value.timestamp ⟨day, time⟩).convertTo .date = .ok (.date day) ∧
    (Value.timestamp ⟨day, time⟩).convertTo .time = .ok (.time time) ∧
    (Expr.arith .minus (.arith .plus (.column date) (.column clock)) (.column clock)).YieldsTyped
      mode context .timestamp (.timestamp (.atMidnight day)) := by
  have dateYields : (Expr.column date).YieldsTyped mode context .date (.date day) :=
    Expr.yieldsTyped_column dateType dayIs
  have timeYields : (Expr.column clock).YieldsTyped mode context .time (.time time) :=
    Expr.yieldsTyped_column clockType timeIs
  have sumYields := dateYields.date_plus_time timeYields sharp
  exact ⟨sumYields, timeYields.time_plus_date dateYields sharp, Value.convertTo_date_timestamp,
    Value.convertTo_time_timestamp, sumYields.timestamp_minus_time timeYields sharp⟩

/-- The last nanosecond of the first day of the calendar. -/
theorem timestamp_of_first_date :
    let date : ColumnRef := ⟨none, "D", some ⟨"T", ⟨0, .date⟩, 0⟩, true⟩
    let clock : ColumnRef := ⟨none, "C", some ⟨"T", ⟨1, .time⟩, 0⟩, true⟩
    let first : Date := ⟨firstOrdinal, by decide, by decide⟩
    let latest : TimeOfDay := ⟨86399, 999999999, by decide, by decide, by decide⟩
    let context : Context := ⟨.regular, [.date first, .time latest], []⟩
    date.evaluate context.row = .ok (.date first) ∧
      clock.evaluate context.row = .ok (.time latest) ∧ latest.isLeap = false ∧
      (Expr.arith .plus (.column date) (.column clock)).YieldsTyped (.ofProduct .oracle) context
        .timestamp (.timestamp ⟨first, latest⟩) ∧
      (Expr.arith .minus (.arith .plus (.column date) (.column clock)) (.column clock)).YieldsTyped
        (.ofProduct .oracle) context .timestamp (.timestamp (.atMidnight first)) := by
  intro date clock first latest context
  have dayIs : date.evaluate context.row = .ok (.date first) := rfl
  have timeIs : clock.evaluate context.row = .ok (.time latest) := rfl
  have sharp : latest.isLeap = false := by decide
  obtain ⟨sum, _, _, _, midnight⟩ := timestamp_of_date_and_time rfl dayIs rfl timeIs sharp
  exact ⟨dayIs, timeIs, sharp, sum, midnight⟩

end SqlScalar
