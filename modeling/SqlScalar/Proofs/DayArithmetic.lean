import SqlScalar.Proofs.DayRules
import SqlScalar.Proofs.OppositeCounts
import SqlScalar.Proofs.UnitCounts

/-! # Arithmetic of days

A number of days is added to a date or a timestamp, or subtracted from it, by a sum of dates: in
days if it is an integer, and rounded to seconds if it has a fraction. Subtracting what has been
added leads back to the same instant, and the difference to the instant itself counts the days.
-/

namespace SqlScalar

open Calendar Resolution

namespace DateFunction

variable {unit : TimeUnit} {count : Int64} {number moment : Value} {start finish : Timestamp}

/-- A sum of dates denotes the instant it moves its argument to, and keeps its type if the unit
keeps dates. -/
theorem evaluateIn_dateAdd_of_add (present : number.isNull = false)
    (counts : number.convertTo .bigint = .ok (.bigint count)) (denotes : moment.Denotes start)
    (sharp : start.time.isLeap = false) (adds : unit.add count.toInt start = some finish) :
    ∃ moved, dateAdd.evaluateIn (callType .dateAdd (some unit) moment.type) unit (.ok number)
        (.ok moment) = .ok moved ∧ moved.Denotes finish ∧
      (unit.keepsDate = true → moved.type = moment.type) := by
  have evaluates {type : DataType} {moved : Value}
      (converts : (Value.timestamp finish).convertTo type = .ok moved) :
      dateAdd.evaluateIn type unit (.ok number) (.ok moment) = .ok moved :=
    (evaluateIn_dateAdd_eq_ok present denotes).mpr
      ⟨count, counts, addUnits_eq_ok.mpr ⟨finish, adds, converts⟩⟩
  rcases denotes.eq_date_or_timestamp with ⟨day, rfl, rfl⟩ | rfl
  · by_cases keeps : unit.keepsDate = true
    · have isDate : callType .dateAdd (some unit) .date = .date := if_pos keeps
      have isMidnight : finish = .atMidnight finish.date := by
        have unmoved := TimeUnit.time_of_add keeps sharp adds
        cases finish
        cases unmoved
        rfl
      refine ⟨.date finish.date, ?_, ?_, fun _ => rfl⟩
      · change dateAdd.evaluateIn (callType .dateAdd (some unit) .date) _ _ _ = _
        rw [isDate]
        exact evaluates rfl
      · rw [isMidnight]
        exact Value.denotes_date finish.date
    · have isTimestamp : callType .dateAdd (some unit) .date = .timestamp := if_neg keeps
      refine ⟨.timestamp finish, ?_, Value.denotes_timestamp finish, fun kept => absurd kept keeps⟩
      change dateAdd.evaluateIn (callType .dateAdd (some unit) .date) _ _ _ = _
      rw [isTimestamp]
      exact evaluates rfl
  · exact ⟨.timestamp finish, evaluates rfl, Value.denotes_timestamp finish, fun _ => rfl⟩

end DateFunction

namespace Resolution

section Unit

variable {days : DataType} {count : Int} {start finish : Timestamp}

theorem dayUnit_numbersLine (days : DataType) :
    ∃ length origin, (dayUnit days).NumbersLine length origin := by
  unfold dayUnit
  split
  · exact ⟨_, _, TimeUnit.day_numbersLine⟩
  · exact ⟨_, _, TimeUnit.second_numbersLine⟩

/-- Within the calendar a number of days has 32 bits, and a number of seconds has 64. -/
theorem bounds_of_dayUnit (sharp : start.time.isLeap = false)
    (adds : (dayUnit days).add count start = some finish) :
    (days = .integer → Int32.minValue.toInt < count) ∧ Int64.minValue.toInt < count := by
  rw [Int32.toInt_minValue, Int64.toInt_minValue]
  unfold dayUnit at adds
  by_cases whole : days = .integer
  · rw [if_pos whole] at adds
    have bounded := Timestamp.natAbs_lt_of_advance sharp adds
    simp only [nanosPerDay, secondsPerDay, nanosPerSecond] at bounded
    omega
  · rw [if_neg whole] at adds
    have bounded := Timestamp.natAbs_lt_of_advance sharp adds
    simp only [nanosPerDay, secondsPerDay, nanosPerSecond] at bounded
    refine ⟨fun isInteger => absurd isInteger whole, ?_⟩
    omega

end Unit

variable {context : Context} {moved days : Expr} {converts : Bool}

section Undo

variable {number moment later : Value} {start : Timestamp} {sum : Expr}

variable (movedExact : moved.Exact context) (momentIs : moved.evaluate context = .ok moment)
  (denotes : moment.Denotes start) (sharp : start.time.isLeap = false)
  (daysExact : days.Exact context) (counted : days.type = .integer ∨ days.type = .decimal)
  (resolves : operation context.mode (.arith .plus) moved days converts = .ok sum)
  (laterIs : sum.evaluate context = .ok later)

include movedExact momentIs denotes sharp daysExact counted resolves laterIs

/-- A sum with a number of days is the instant that many units further on. -/
theorem denotes_laterDay : ∃ number count finish,
    valueOf context (dayCount context.mode days) = .ok number ∧
      number.convertTo .bigint = .ok (.bigint count) ∧
      (dayUnit days.type).add count.toInt start = some finish ∧ later.Denotes finish ∧
      (days.type = .integer → later.type = moment.type) := by
  have movedType : moment.type = moved.type := (movedExact moment momentIs).2
  have dated : moved.type.hasDate = true := by
    rw [← movedType]
    exact denotes.dated
  have countable := DataType.countable_of_exact counted
  have moves : valueOf context (.ok sum) = .ok later := laterIs
  rw [← resolves, valueOf_laterDay dated countable, momentIs, ← movedType] at moves
  obtain ⟨number, _, _, _, counts, _, _, _, _⟩ := DateFunction.evaluateIn_eq_ok.mp moves
  -- The sum has a value, so its number counts and the calendar reaches where it moves.
  have present := (negate_dayCount daysExact counted counts).1
  rw [counts] at moves
  obtain ⟨count, whole, adds⟩ := (DateFunction.evaluateIn_dateAdd_eq_ok present denotes).mp moves
  obtain ⟨finish, reached, _⟩ := DateFunction.addUnits_eq_ok.mp adds
  obtain ⟨moved', evaluates, laterDenotes, laterType⟩ :=
    DateFunction.evaluateIn_dateAdd_of_add present whole denotes sharp reached
  rw [evaluates] at moves
  cases moves
  refine ⟨number, count, finish, counts, whole, reached, laterDenotes, ?_⟩
  intro isInteger
  apply laterType
  rw [isInteger]
  rfl

/-- Subtracting the same number of days leads back to the instant. -/
theorem denotes_earlierDay {again : Bool} : ∃ back,
    valueOf context (operation context.mode (.arith .minus) sum days again) = .ok back ∧
      back.Denotes start ∧ (days.type = .integer → back.type = moment.type) := by
  obtain ⟨number, count, finish, counts, whole, reached, laterDenotes, laterType⟩ :=
    denotes_laterDay movedExact momentIs denotes sharp daysExact counted resolves laterIs
  obtain ⟨_, numberType, negates⟩ := negate_dayCount daysExact counted counts
  have sumExact : sum.Exact context :=
    exact_of_rewrites (operation_rewrites resolves) movedExact daysExact
  have sumType : later.type = sum.type := (sumExact later laterIs).2
  have dated : sum.type.hasDate = true := by
    rw [← sumType]
    exact laterDenotes.dated
  have countable := DataType.countable_of_exact counted
  -- The instant reached lies in the calendar, so the number is not the least of its type.
  obtain ⟨bounded, wide⟩ := bounds_of_dayUnit sharp reached
  rw [← numberType] at counted bounded
  obtain ⟨negated, opposite, isNegated, negatedCounts, oppositeIs⟩ :=
    Value.exists_opposite counted whole bounded wide
  obtain ⟨length, origin, numbers⟩ := dayUnit_numbersLine days.type
  obtain ⟨finishSharp, returns⟩ := numbers.add_neg sharp reached
  rw [← oppositeIs] at returns
  have negatedPresent : negated.isNull = false := by
    apply Value.isNull_eq_false_of_typed
    rw [Value.negate_type isNegated]
    exact DataType.isUntyped_of_exact counted
  obtain ⟨back, evaluates, backDenotes, backType⟩ := DateFunction.evaluateIn_dateAdd_of_add
    negatedPresent negatedCounts laterDenotes finishSharp returns
  refine ⟨back, ?_, backDenotes, ?_⟩
  · rw [valueOf_earlierDay dated countable, negates, isNegated, laterIs, ← sumType]
    exact evaluates
  · intro isInteger
    rw [← laterType isInteger]
    apply backType
    rw [isInteger]
    rfl

/-- The difference from the instant itself counts the days that an integer has added. -/
theorem valueOf_daysAdded {again : Bool} {added : Int32}
    (daysAre : days.evaluate context = .ok (.integer added)) :
    valueOf context (operation context.mode (.arith .minus) sum moved again) =
      .ok (.bigint added.toInt64) := by
  obtain ⟨number, count, finish, counts, whole, reached, laterDenotes, _⟩ :=
    denotes_laterDay movedExact momentIs denotes sharp daysExact counted resolves laterIs
  have sumExact : sum.Exact context :=
    exact_of_rewrites (operation_rewrites resolves) movedExact daysExact
  have dated : sum.type.hasDate = true := by
    rw [← (sumExact later laterIs).2]
    exact laterDenotes.dated
  have movedDated : moved.type.hasDate = true := by
    rw [← (movedExact moment momentIs).2]
    exact denotes.dated
  have isInteger : days.type = .integer := (daysExact _ daysAre).2.symm
  have numberIs : number = .integer added := by
    unfold dayCount at counts
    rw [if_pos isInteger] at counts
    exact Except.ok.inj (counts.symm.trans daysAre)
  rw [numberIs] at whole
  have countIs : added.toInt = count.toInt :=
    Option.some.inj (Value.convertTo_bigint_eq_ok.mp whole)
  have isDay : dayUnit days.type = .day := if_pos isInteger
  rw [isDay] at reached
  have between : TimeUnit.day.between start finish = added.toInt := by
    have counted := TimeUnit.index_add sharp reached
    rw [TimeUnit.between, counted, countIs]
    omega
  rw [valueOf_daysBetween dated movedDated, momentIs, laterIs,
    DateFunction.evaluateIn_dateDiff denotes laterDenotes, between, Int64.ofInt_int32ToInt]

end Undo

end Resolution

namespace Expr

variable {context : Context} {op : ArithOp} {left right left' right' : Expr} {value : Value}

/-- Arithmetic yields what the operation on its resolved operands does. -/
theorem yields_arith (leftIs : left.resolve context.mode = .ok left')
    (rightIs : right.resolve context.mode = .ok right') :
    (arith op left right).Yields context value ↔
      valueOf context (Resolution.operation context.mode (.arith op) left' right' true) =
        .ok value := by
  rw [← resolve_arith_of_operands leftIs rightIs]
  exact bind_eq_ok.symm

end Expr

/-- Days that are added to a column of dates can be subtracted again, and an integer number of
them can be read off the difference to the column, unless the column holds a leap second. -/
theorem subtract_added_days {context : Context} {date days : ColumnRef}
    {moment number later : Value} {instant : Timestamp}
    (momentIs : date.evaluate context.row = .ok moment) (momentType : moment.type = date.type)
    (denotes : moment.Denotes instant) (sharp : instant.time.isLeap = false)
    (numberIs : days.evaluate context.row = .ok number) (numberType : number.type = days.type)
    (counted : days.type = .integer ∨ days.type = .decimal)
    (adds : (Expr.arith .plus (.column date) (.column days)).Yields context later) :
    (∃ back, (Expr.arith .minus (.arith .plus (.column date) (.column days))
        (.column days)).Yields context back ∧ back.Denotes instant ∧
      (days.type = .integer → back = moment)) ∧
    ∀ added, number = .integer added →
      (Expr.arith .minus (.arith .plus (.column date) (.column days))
        (.column date)).Yields context (.bigint added.toInt64) := by
  have numberPresent : number.isNull = false := by
    apply Value.isNull_eq_false_of_typed
    rw [numberType]
    exact DataType.isUntyped_of_exact counted
  have dateExact : (Expr.column date).Exact context :=
    exact_column momentIs denotes.present momentType
  have daysExact : (Expr.column days).Exact context :=
    exact_column numberIs numberPresent numberType
  have dateIs : (Expr.column date).resolve context.mode = .ok (.column date) :=
    Expr.resolve_column momentIs
  have daysIs : (Expr.column days).resolve context.mode = .ok (.column days) :=
    Expr.resolve_column numberIs
  obtain ⟨sum, resolves, laterIs⟩ := bind_eq_ok.mp ((Expr.yields_arith dateIs daysIs).mp adds)
  have sumIs := (Expr.resolve_arith_of_operands dateIs daysIs).trans resolves
  constructor
  · obtain ⟨back, subtracts, backDenotes, backType⟩ :=
      denotes_earlierDay dateExact momentIs denotes sharp daysExact counted resolves laterIs
    refine ⟨back, (Expr.yields_arith sumIs daysIs).mpr subtracts, backDenotes, ?_⟩
    intro isInteger
    exact backDenotes.eq_of_type denotes (backType isInteger)
  · intro added isAdded
    rw [isAdded] at numberIs
    apply (Expr.yields_arith sumIs dateIs).mpr
    exact valueOf_daysAdded dateExact momentIs denotes sharp daysExact counted resolves laterIs
      numberIs

/-- Half a day that is added to a column holding the first day of 1970 makes it noon, and can be
subtracted again. -/
theorem subtract_added_half_day :
    let date : ColumnRef := ⟨none, "D", some ⟨"T", ⟨0, .date⟩, 0⟩, true⟩
    let days : ColumnRef := ⟨none, "N", some ⟨"T", ⟨1, .decimal⟩, 0⟩, true⟩
    let context : Context := ⟨.regular,
      [.date .epoch, .decimal ⟨false, 5, 1, by decide, by decide⟩], []⟩
    (Expr.arith .plus (.column date) (.column days)).Yields context
        (.timestamp ⟨.epoch, .ofNanoseconds (43200 * nanosPerSecond)⟩) ∧
      ∃ back, (Expr.arith .minus (.arith .plus (.column date) (.column days))
        (.column days)).Yields context back ∧ back.Denotes (.atMidnight .epoch) := by
  intro date days context
  have adds : (Expr.arith .plus (.column date) (.column days)).Yields context
      (.timestamp ⟨.epoch, .ofNanoseconds (43200 * nanosPerSecond)⟩) := ⟨_, rfl, rfl⟩
  have momentIs : date.evaluate context.row = .ok (.date .epoch) := rfl
  have numberIs : days.evaluate context.row =
      .ok (.decimal ⟨false, 5, 1, by decide, by decide⟩) := rfl
  obtain ⟨⟨back, subtracts, denotes, _⟩, _⟩ := subtract_added_days momentIs rfl
    (Value.denotes_date .epoch) rfl numberIs rfl (.inr rfl) adds
  exact ⟨adds, back, subtracts, denotes⟩

end SqlScalar
