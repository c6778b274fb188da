import Mathlib.Data.Int.ModEq
import SqlScalar.Proofs.InstantLine
import SqlScalar.Proofs.Outcome
import SqlScalar.Value.Arithmetic

/-! # Arithmetic on the clock

Times of day are added, subtracted and turned round midnight as numbers of nanoseconds modulo a
day. A leap second counts as the nanoseconds it lies after midnight, and no result is in one, so
that the laws of integers hold, but for a time of day in a leap second that is to be got back.
-/

namespace SqlScalar

open Calendar

namespace Calendar.TimeOfDay

variable {time : TimeOfDay} {count other : Int}

/-- A count of nanoseconds and the time of day it leads to are the same but for whole days. -/
theorem ofNanoseconds_modEq (count : Int) :
    (ofNanoseconds count).nanoseconds ≡ count [ZMOD nanosPerDay] := by
  rw [nanoseconds_ofNanoseconds]
  exact Int.mod_modEq count nanosPerDay

/-- Whole days make no difference to the time of day. -/
theorem ofNanoseconds_eq_iff :
    ofNanoseconds count = ofNanoseconds other ↔ count ≡ other [ZMOD nanosPerDay] := by
  constructor
  · intro same
    have congruent := ofNanoseconds_modEq count
    rw [same] at congruent
    exact congruent.symm.trans (ofNanoseconds_modEq other)
  · intro congruent
    apply eq_of_nanoseconds (isLeap_ofNanoseconds count) (isLeap_ofNanoseconds other)
    rw [nanoseconds_ofNanoseconds, nanoseconds_ofNanoseconds]
    exact congruent

/-- A sum wraps around midnight in the end, whether or not a part of it has done so before. -/
theorem ofNanoseconds_add_left (count other : Int) :
    ofNanoseconds ((ofNanoseconds count).nanoseconds + other) = ofNanoseconds (count + other) :=
  ofNanoseconds_eq_iff.mpr ((ofNanoseconds_modEq count).add_right other)

/-- Before more is added, a count of nanoseconds may be taken around midnight. -/
theorem ofNanoseconds_add_right (count other : Int) :
    ofNanoseconds (count + (ofNanoseconds other).nanoseconds) = ofNanoseconds (count + other) :=
  ofNanoseconds_eq_iff.mpr ((ofNanoseconds_modEq other).add_left count)

/-- A time of day is given by its distance from midnight just if it is in no leap second. -/
theorem ofNanoseconds_nanoseconds_iff :
    ofNanoseconds time.nanoseconds = time ↔ time.isLeap = false := by
  constructor
  · intro same
    rw [← same]
    exact isLeap_ofNanoseconds _
  · intro sharp
    apply eq_of_nanoseconds (isLeap_ofNanoseconds _) sharp
    rw [nanoseconds_ofNanoseconds]
    exact Int.emod_eq_of_lt time.nanoseconds_nonneg (nanoseconds_lt sharp)

end Calendar.TimeOfDay

namespace Value

/-- Whether an outcome is a time of day that lies a number of nanoseconds after midnight, but for
whole days, and in no leap second. -/
def IsClockAt (nanoseconds : Int) (outcome : Outcome Value) : Prop :=
  ∃ clock, outcome = .ok (time clock) ∧ clock.isLeap = false ∧
    clock.nanoseconds ≡ nanoseconds [ZMOD nanosPerDay]

section Clocks

variable (a b : TimeOfDay)

theorem time_plus_time :
    (time a).arith .plus (time b) = .ok (time (.ofNanoseconds (a.nanoseconds + b.nanoseconds))) :=
  clockAt_eq _

theorem time_minus_time :
    (time a).arith .minus (time b) = .ok (time (.ofNanoseconds (a.nanoseconds - b.nanoseconds))) :=
  clockAt_eq _

theorem negate_time : (time a).negate = .ok (time (.ofNanoseconds (-a.nanoseconds))) :=
  clockAt_eq _

end Clocks

theorem isClockAt_ofNanoseconds (count : Int) :
    IsClockAt count (.ok (time (.ofNanoseconds count))) :=
  ⟨_, rfl, TimeOfDay.isLeap_ofNanoseconds count, TimeOfDay.ofNanoseconds_modEq count⟩

/-- Times of day, in leap seconds or not, are added, subtracted and turned round modulo a day: sums
do not depend on order or grouping, a difference is the sum with the opposite time of day, and what
was added can be subtracted again unless it was added to a time of day in a leap second. -/
theorem time_arithmetic_modulo_day (a b c : TimeOfDay) :
    IsClockAt (a.nanoseconds + b.nanoseconds) ((time a).arith .plus (time b)) ∧
    IsClockAt (a.nanoseconds - b.nanoseconds) ((time a).arith .minus (time b)) ∧
    IsClockAt (-a.nanoseconds) (time a).negate ∧
    (time a).arith .plus (time b) = (time b).arith .plus (time a) ∧
    ((time a).arith .plus (time b) >>= fun sum => sum.arith .plus (time c)) =
      ((time b).arith .plus (time c) >>= fun sum => (time a).arith .plus sum) ∧
    (time a).arith .minus (time b) =
      ((time b).negate >>= fun opposite => (time a).arith .plus opposite) ∧
    (((time a).arith .plus (time b) >>= fun sum => sum.arith .minus (time b)) = .ok (time a) ↔
      a.isLeap = false) := by
  refine ⟨?_, ?_, ?_, ?_, ?_, ?_, ?_⟩
  · rw [time_plus_time]
    exact isClockAt_ofNanoseconds _
  · rw [time_minus_time]
    exact isClockAt_ofNanoseconds _
  · rw [negate_time]
    exact isClockAt_ofNanoseconds _
  · rw [time_plus_time, time_plus_time, Int.add_comm]
  · rw [time_plus_time, time_plus_time, ok_bind, ok_bind, time_plus_time, time_plus_time,
      TimeOfDay.ofNanoseconds_add_left, TimeOfDay.ofNanoseconds_add_right, Int.add_assoc]
  · rw [time_minus_time, negate_time, ok_bind, time_plus_time, TimeOfDay.ofNanoseconds_add_right,
      Int.sub_eq_add_neg]
  · rw [time_plus_time, ok_bind, time_minus_time, Int.sub_eq_add_neg,
      TimeOfDay.ofNanoseconds_add_left, Int.add_neg_cancel_right, Except.ok.injEq, time.injEq,
      TimeOfDay.ofNanoseconds_nanoseconds_iff]

end Value

end SqlScalar
