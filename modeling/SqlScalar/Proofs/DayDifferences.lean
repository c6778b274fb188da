import SqlScalar.Proofs.DatesWithTimes
import SqlScalar.Proofs.DayArithmetic
import SqlScalar.Proofs.TemporalMatrix

/-! # Differences of dates

The difference of two dates is a number of days of the type `BIGINT`. A sum of dates by that number
of days leads from the one date to the other. But the operator `+` counts days by an `INTEGER` or by
a number with a fraction only, so it does not add the difference back.
-/

namespace SqlScalar

open Calendar Resolution

namespace Calendar

variable {first last : Date}

/-- As many days as lie between two dates lead from the midnight of one to that of the other. -/
theorem TimeUnit.day_add_difference (first last : Date) :
    TimeUnit.day.add (last.ordinal - first.ordinal) (.atMidnight first) =
      some (.atMidnight last) := by
  have sharp (date : Date) : (Timestamp.atMidnight date).time.isLeap = false := rfl
  apply (Timestamp.advance_eq_some (sharp first)).mpr
  refine ⟨sharp last, ?_⟩
  simp only [Timestamp.sinceEpoch, Timestamp.daysSinceEpoch, Timestamp.atMidnight]
  rw [Int.add_right_comm, ← Int.add_mul]
  congr 2
  omega

/-- The number of days between two dates has 64 bits. -/
theorem toInt_dayDifference (first last : Date) :
    (Int64.ofInt (TimeUnit.day.between (.atMidnight first) (.atMidnight last))).toInt =
      last.ordinal - first.ordinal := by
  have sharp : (Timestamp.atMidnight first).time.isLeap = false := rfl
  have short := Timestamp.natAbs_lt_of_advance sharp (TimeUnit.day_add_difference first last)
  have between : TimeUnit.day.between (.atMidnight first) (.atMidnight last) =
      last.ordinal - first.ordinal := rfl
  simp only [nanosPerDay, secondsPerDay, nanosPerSecond] at short
  rw [between]
  apply Int64.toInt_ofInt_of_le
  · omega
  · omega

end Calendar

namespace Resolution

variable {mode : Mode} {left right : Expr} {converts : Bool}

/-- A date and a number of days of the type that differences have are not added, whichever comes
first. -/
theorem operation_date_plus_difference (dated : right.type.hasDate = true)
    (counts : left.type = .bigint) :
    operation mode (.arith .plus) left right converts =
        .error (.unsupported .bigint .plus right.type) ∧
      operation mode (.arith .plus) right left converts =
        .error (.unsupported .bigint .plus right.type) := by
  have isTemporal := DataType.isTemporal_of_hasDate dated
  have ordered : DataType.preferred left.type right.type = right.type := by
    rw [counts]
    generalize right.type = type at dated
    cases type <;> first | rfl | cases dated
  have reversed : DataType.preferred right.type left.type ≠ left.type := by
    rw [DataType.preferred_comm, ordered, counts]
    intro same
    rw [same] at dated
    cases dated
  have noDays : left.type.countsDays = false := by
    rw [counts]
    rfl
  have noTime : left.type ≠ .time := by
    rw [counts]
    nofun
  have refused : orderedSum mode left right converts =
      .error (.unsupported .bigint .plus right.type) := by
    rw [orderedSum_of_other noDays noTime, counts]
  constructor
  · rw [operation_of_temporal (.inr isTemporal)]
    simp only [temporal, temporalSum, ordered, ↓reduceIte, refused]
  · rw [operation_of_temporal (.inl isTemporal)]
    simp only [temporal, temporalSum, reversed, ↓reduceIte, refused]

end Resolution

namespace Expr

variable {mode : Mode} {context : Context}

/-- An expression that is resolved like a call with a valid unit has the value that its function
computes. -/
theorem yieldsTyped_of_call {function : DateFunction} {unit : TimeUnit} {named a b value : Value}
    {expr first second : Expr}
    (resolves : expr.resolve mode = Resolution.call function (.literal named) first second)
    (present : named.isNull = false) (parses : TimeUnit.parse named.display = .ok unit)
    (firstIs : first.evaluate context = .ok a) (secondIs : second.evaluate context = .ok b)
    (computes : function.evaluateIn (callType function (some unit) second.type) unit (.ok a)
      (.ok b) = .ok value)
    (typed : value.type = callType function (some unit) second.type) :
    expr.YieldsTyped mode context value.type value := by
  have known := constantUnit_literal present parses
  have evaluates : valueOf context (Resolution.call function (.literal named) first second) =
      .ok value := by
    rw [valueOf_call known, firstIs, secondIs]
    exact (DateFunction.evaluate_of_unit present parses).trans computes
  obtain ⟨result, calls, resultIs⟩ := bind_eq_ok.mp evaluates
  refine ⟨result, resolves.trans calls, ?_, resultIs⟩
  obtain ⟨_, knownIs, ⟨_, _, _, folded, _, _, _, _, rfl⟩ | ⟨_, rfl⟩⟩ := call_eq_ok calls
  · cases resultIs
    rfl
  · rw [known] at knownIs
    cases knownIs
    exact typed.symm

section Differences

variable {start finish : Expr} {first last : Date} {startValue finishValue : Value}
  (startYields : start.YieldsTyped mode context startValue.type startValue)
  (startIs : startValue.Denotes (.atMidnight first))

include startYields startIs

/-- The difference of two dates is the number of days from the one to the other. -/
theorem YieldsTyped.day_difference
    (finishYields : finish.YieldsTyped mode context finishValue.type finishValue)
    (finishIs : finishValue.Denotes (.atMidnight last)) :
    ∃ days, days.toInt = last.ordinal - first.ordinal ∧
      (arith .minus finish start).YieldsTyped mode context .bigint (.bigint days) := by
  obtain ⟨start', startResolves, startType, startHolds⟩ := startYields
  obtain ⟨finish', finishResolves, finishType, finishHolds⟩ := finishYields
  have startDated : start'.type.hasDate = true := by
    rw [startType]
    exact startIs.dated
  have finishDated : finish'.type.hasDate = true := by
    rw [finishType]
    exact finishIs.dated
  refine ⟨_, toInt_dayDifference first last, ?_⟩
  have resolves : (arith .minus finish start).resolve mode =
      Resolution.call .dateDiff (.string "DAY") start' finish' := by
    rw [resolve_arith_of_operands finishResolves startResolves]
    exact operation_daysBetween finishDated startDated
  exact yieldsTyped_of_call resolves rfl parse_day startHolds finishHolds
    (DateFunction.evaluateIn_dateDiff startIs finishIs) rfl

/-- A sum of dates moves a date by a number of days to the date that many days away. -/
theorem YieldsTyped.dateAdd_days {count : Expr} {days : Int64}
    (countYields : count.YieldsTyped mode context .bigint (.bigint days))
    (daysAre : days.toInt = last.ordinal - first.ordinal) :
    ∃ moved, moved.type = startValue.type ∧ moved.Denotes (.atMidnight last) ∧
      (Expr.call .dateAdd (.string "DAY") count start none).YieldsTyped mode context
        startValue.type moved := by
  obtain ⟨start', startResolves, startType, startHolds⟩ := startYields
  obtain ⟨count', countResolves, _, countHolds⟩ := countYields
  have reaches : TimeUnit.day.add days.toInt (.atMidnight first) = some (.atMidnight last) := by
    rw [daysAre]
    exact TimeUnit.day_add_difference first last
  have present : (Value.bigint days).isNull = false := rfl
  obtain ⟨moved, computes, denotes, movedType⟩ :=
    DateFunction.evaluateIn_dateAdd_of_add present rfl startIs rfl reaches
  have keeps : callType .dateAdd (some .day) startValue.type = startValue.type := by
    rcases startIs.eq_date_or_timestamp with ⟨_, rfl, _⟩ | rfl
    · rfl
    · rfl
  have resolves : (Expr.call .dateAdd (.string "DAY") count start none).resolve mode =
      Resolution.call .dateAdd (.string "DAY") count' start' := by
    simp only [resolve, countResolves, startResolves, Expr.string]
    rfl
  have sameType : moved.type = startValue.type := movedType rfl
  refine ⟨moved, sameType, denotes, ?_⟩
  rw [← startType] at computes keeps sameType
  rw [← startType, ← sameType]
  exact yieldsTyped_of_call resolves rfl parse_day countHolds startHolds computes
    (sameType.trans keeps.symm)

/-- A date is not added to its own difference to another date. -/
theorem resolve_plus_day_difference
    (finishYields : finish.YieldsTyped mode context finishValue.type finishValue)
    (finishIs : finishValue.Denotes (.atMidnight last)) :
    (arith .plus start (arith .minus finish start)).resolve mode =
        .error (.unsupported .bigint .plus startValue.type) ∧
      (arith .plus (arith .minus finish start) start).resolve mode =
        .error (.unsupported .bigint .plus startValue.type) := by
  obtain ⟨_, _, difference, differenceResolves, differenceType, _⟩ :=
    startYields.day_difference startIs finishYields finishIs
  obtain ⟨start', startResolves, startType, _⟩ := startYields
  have dated : start'.type.hasDate = true := by
    rw [startType]
    exact startIs.dated
  rw [resolve_arith_of_operands startResolves differenceResolves,
    resolve_arith_of_operands differenceResolves startResolves, ← startType]
  exact (operation_date_plus_difference dated differenceType).symm

end Differences

end Expr

/-- The difference of two dates is the number of days from the one to the other. The operator `+`
does not add it to the first of them, but a sum of dates does and leads to the second. -/
theorem dateAdd_day_difference {mode : Mode} {context : Context} {start finish : Expr}
    {first last : Date} {startValue finishValue : Value}
    (startYields : start.YieldsTyped mode context startValue.type startValue)
    (startIs : startValue.Denotes (.atMidnight first))
    (finishYields : finish.YieldsTyped mode context finishValue.type finishValue)
    (finishIs : finishValue.Denotes (.atMidnight last)) :
    (∃ days, days.toInt = last.ordinal - first.ordinal ∧
      (Expr.arith .minus finish start).YieldsTyped mode context .bigint (.bigint days)) ∧
    (Expr.arith .plus start (.arith .minus finish start)).resolve mode =
      .error (.unsupported .bigint .plus startValue.type) ∧
    (Expr.arith .plus (.arith .minus finish start) start).resolve mode =
      .error (.unsupported .bigint .plus startValue.type) ∧
    ∃ back, (Expr.call .dateAdd (.string "DAY") (.arith .minus finish start) start
        none).YieldsTyped mode context startValue.type back ∧
      back.Denotes (.atMidnight last) ∧
      (startValue.type = finishValue.type → back = finishValue) := by
  obtain ⟨days, daysAre, differs⟩ := startYields.day_difference startIs finishYields finishIs
  obtain ⟨refused, refusedInFront⟩ :=
    Expr.resolve_plus_day_difference startYields startIs finishYields finishIs
  obtain ⟨back, backType, backIs, adds⟩ := startYields.dateAdd_days startIs differs daysAre
  refine ⟨⟨days, daysAre, differs⟩, refused, refusedInFront, back, adds, backIs, ?_⟩
  intro sameType
  exact backIs.eq_of_type finishIs (backType.trans sameType)

/-- A difference that spans the calendar leads back from its last day to its first one. -/
theorem dateAdd_day_difference_of_calendar :
    let start : ColumnRef := ⟨none, "S", some ⟨"T", ⟨0, .date⟩, 0⟩, true⟩
    let finish : ColumnRef := ⟨none, "F", some ⟨"T", ⟨1, .date⟩, 0⟩, true⟩
    let first : Date := ⟨firstOrdinal, by decide, by decide⟩
    let last : Date := ⟨lastOrdinal, by decide, by decide⟩
    let context : Context := ⟨.regular, [.date last, .date first], []⟩
    let difference : Expr := .arith .minus (.column finish) (.column start)
    start.evaluate context.row = .ok (.date last) ∧
      finish.evaluate context.row = .ok (.date first) ∧
      (∃ days, days.toInt = firstOrdinal - lastOrdinal ∧
        difference.YieldsTyped (.ofProduct .oracle) context .bigint (.bigint days)) ∧
      (Expr.call .dateAdd (.string "DAY") difference (.column start) none).YieldsTyped
        (.ofProduct .oracle) context .date (.date first) := by
  intro start finish first last context difference
  have startIs : start.evaluate context.row = .ok (.date last) := rfl
  have finishIs : finish.evaluate context.row = .ok (.date first) := rfl
  have startYields :
      (Expr.column start).YieldsTyped (.ofProduct .oracle) context .date (.date last) :=
    Expr.yieldsTyped_column rfl startIs
  have finishYields :
      (Expr.column finish).YieldsTyped (.ofProduct .oracle) context .date (.date first) :=
    Expr.yieldsTyped_column rfl finishIs
  obtain ⟨differs, _, _, back, adds, _, same⟩ := dateAdd_day_difference startYields
    (Value.denotes_date last) finishYields (Value.denotes_date first)
  rw [same rfl] at adds
  exact ⟨startIs, finishIs, differs, adds⟩

/-- Two columns hold the first two days of 1970, and their difference is not added back. -/
theorem not_yields_date_plus_difference :
    let finish : ColumnRef := ⟨none, "A", some ⟨"T", ⟨0, .date⟩, 0⟩, true⟩
    let start : ColumnRef := ⟨none, "B", some ⟨"T", ⟨1, .date⟩, 0⟩, true⟩
    let second : Date := ⟨Date.epoch.ordinal + 1, by decide, by decide⟩
    let context : Context := ⟨.ofProduct .regular, [.date second, .date .epoch], []⟩
    finish.evaluate context.row = .ok (.date second) ∧
      start.evaluate context.row = .ok (.date .epoch) ∧
      ¬ ∃ type value, (Expr.arith .plus (.column start)
        (.arith .minus (.column finish) (.column start))).YieldsTyped (.ofProduct .regular) context
          type value := by
  intro finish start second context
  refine ⟨rfl, rfl, ?_⟩
  rintro ⟨_, _, resolved, resolves, _⟩
  have refused : (Expr.arith .plus (.column start)
      (.arith .minus (.column finish) (.column start))).resolve (.ofProduct .regular) =
        .error (.unsupported .bigint .plus .date) := rfl
  rw [refused] at resolves
  cases resolves

end SqlScalar
