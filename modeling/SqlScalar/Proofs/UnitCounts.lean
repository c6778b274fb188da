import SqlScalar.Proofs.DatedValues
import SqlScalar.Proofs.FoldingAgreement
import SqlScalar.Proofs.InstantLine

/-! # Counting units

Each unit of time divides the months of the calendar or the line of instants into equal parts
and numbers them. Moving an instant by a number of units takes it that many parts further on,
whatever it lies in front of or behind, so the difference of dates from an instant to where a sum
of dates moves it counts the units that were added.
-/

namespace SqlScalar

namespace Calendar

/-- A unit that numbers the months of the calendar in parts of a size. -/
structure TimeUnit.NumbersMonths (unit : TimeUnit) (size : Int) : Prop where
  positive : 0 < size
  step_eq : ∀ count, unit.step count = .months (count * size)
  index_eq : ∀ instant, unit.index instant = instant.date.monthIndex / size

/-- A unit that numbers parts of a length on the line of instants, from an origin that lies a
number of nanoseconds in front of 1970. -/
structure TimeUnit.NumbersLine (unit : TimeUnit) (length origin : Int) : Prop where
  positive : 0 < length
  step_eq : ∀ count, unit.step count = .nanoseconds (count * length)
  index_eq : ∀ instant, instant.time.isLeap = false →
    unit.index instant = (instant.sinceEpoch + origin) / length

namespace TimeUnit

variable {unit : TimeUnit} {count : Int} {instant moved : Timestamp}

theorem year_numbersMonths : year.NumbersMonths 12 where
  positive := by decide
  step_eq count := by rw [step, Int.mul_comm]
  index_eq instant := instant.date.year_eq_monthIndex

theorem month_numbersMonths : month.NumbersMonths 1 where
  positive := by decide
  step_eq count := by rw [step, Int.mul_one]
  index_eq instant := by rw [index, Int.ediv_one]

/-- Weeks are seven days long, from a Monday on. -/
theorem week_numbersLine : week.NumbersLine (7 * nanosPerDay) (719162 * nanosPerDay) where
  positive := by decide
  step_eq _ := rfl
  index_eq instant sharp := by
    have days := instant.daysSinceEpoch_eq sharp
    simp only [index, Date.weekIndex, Timestamp.daysSinceEpoch, Date.epoch, nanosPerDay,
      secondsPerDay, nanosPerSecond] at *
    omega

/-- Days are numbered as the calendar numbers them. -/
theorem day_numbersLine : day.NumbersLine nanosPerDay (719163 * nanosPerDay) where
  positive := by decide
  step_eq _ := rfl
  index_eq instant sharp := by
    have days := instant.daysSinceEpoch_eq sharp
    simp only [index, Timestamp.daysSinceEpoch, Date.epoch, nanosPerDay, secondsPerDay,
      nanosPerSecond] at *
    omega

/-- Hours are counted from the beginning of 1970. -/
theorem hour_numbersLine : hour.NumbersLine (3600 * nanosPerSecond) 0 where
  positive := by decide
  step_eq _ := rfl
  index_eq instant sharp := by
    have seconds := instant.seconds_eq sharp
    simp only [index, nanosPerSecond] at *
    omega

/-- Minutes are counted from the beginning of 1970. -/
theorem minute_numbersLine : minute.NumbersLine (60 * nanosPerSecond) 0 where
  positive := by decide
  step_eq _ := rfl
  index_eq instant sharp := by
    have seconds := instant.seconds_eq sharp
    simp only [index, nanosPerSecond] at *
    omega

theorem second_numbersLine : second.NumbersLine nanosPerSecond 0 where
  positive := by decide
  step_eq _ := rfl
  index_eq instant sharp := by
    rw [index, Int.add_zero]
    exact instant.seconds_eq sharp

theorem millisecond_numbersLine : millisecond.NumbersLine 1000000 0 where
  positive := by decide
  step_eq _ := rfl
  index_eq instant sharp := by
    rw [index, Int.add_zero]
    exact instant.milliseconds_eq sharp

/-- A number of parts further on the months lie in the part with the number so much higher. -/
theorem NumbersMonths.index_add {size : Int} (numbers : unit.NumbersMonths size)
    (adds : unit.add count instant = some moved) :
    unit.index moved = unit.index instant + count := by
  rw [add, numbers.step_eq] at adds
  obtain ⟨date, reached, same⟩ := Option.bind_eq_some_iff.mp adds
  cases same
  rw [numbers.index_eq, numbers.index_eq, Date.monthIndex_addMonths reached]
  exact Int.add_mul_ediv_right _ _ (Int.ne_of_gt numbers.positive)

/-- Adding units of a fixed length moves the number of an instant by as many. -/
theorem NumbersLine.index_add {length origin : Int} (numbers : unit.NumbersLine length origin)
    (sharp : instant.time.isLeap = false) (adds : unit.add count instant = some moved) :
    unit.index moved = unit.index instant + count := by
  rw [add, numbers.step_eq] at adds
  obtain ⟨movedSharp, distance⟩ := (Timestamp.advance_eq_some sharp).mp adds
  rw [numbers.index_eq instant sharp, numbers.index_eq moved movedSharp, distance,
    Int.add_right_comm]
  exact Int.add_mul_ediv_right _ _ (Int.ne_of_gt numbers.positive)

/-- Moving an instant by a number of units takes it as many units further on. -/
theorem index_add (sharp : instant.time.isLeap = false)
    (adds : unit.add count instant = some moved) :
    unit.index moved = unit.index instant + count := by
  cases unit with
  | year => exact year_numbersMonths.index_add adds
  | month => exact month_numbersMonths.index_add adds
  | week => exact week_numbersLine.index_add sharp adds
  | day => exact day_numbersLine.index_add sharp adds
  | hour => exact hour_numbersLine.index_add sharp adds
  | minute => exact minute_numbersLine.index_add sharp adds
  | second => exact second_numbersLine.index_add sharp adds
  | millisecond => exact millisecond_numbersLine.index_add sharp adds

/-- The units that keep dates do not look at the time of day. -/
theorem index_eq_of_date {left right : Timestamp} (keeps : unit.keepsDate = true)
    (sameDate : left.date = right.date) : unit.index left = unit.index right := by
  cases unit with
  | year | month | week | day => simp only [index, sameDate]
  | hour | minute | second | millisecond => cases keeps

/-- The units that keep dates do not move the time of day. -/
theorem time_of_add (keeps : unit.keepsDate = true) (sharp : instant.time.isLeap = false)
    (adds : unit.add count instant = some moved) : moved.time = instant.time := by
  cases unit with
  | year | month =>
      obtain ⟨date, _, same⟩ := Option.bind_eq_some_iff.mp adds
      cases same
      rfl
  | week =>
      have weeks : count * (7 * nanosPerDay) = count * 7 * nanosPerDay := (Int.mul_assoc _ _ _).symm
      simp only [add, step, weeks] at adds
      exact (Timestamp.advance_days sharp adds).2
  | day => exact (Timestamp.advance_days sharp adds).2
  | hour | minute | second | millisecond => cases keeps

/-- Adding the opposite number of units on the line of instants leads back. -/
theorem NumbersLine.add_neg {length origin : Int} (numbers : unit.NumbersLine length origin)
    (sharp : instant.time.isLeap = false) (adds : unit.add count instant = some moved) :
    moved.time.isLeap = false ∧ unit.add (-count) moved = some instant := by
  rw [add, numbers.step_eq] at adds
  obtain ⟨movedSharp, _⟩ := (Timestamp.advance_eq_some sharp).mp adds
  refine ⟨movedSharp, ?_⟩
  rw [add, numbers.step_eq, Int.neg_mul]
  exact Timestamp.advance_neg sharp adds

end TimeUnit

end Calendar

open Calendar Resolution

namespace Resolution

/-- A unit that is known beforehand is named by a constant. -/
theorem constantUnit_eq_some {unit : Expr} {known : TimeUnit}
    (knownIs : constantUnit unit = .ok (some known)) :
    ∃ named, unit = .literal named ∧ TimeUnit.parse named.display = .ok known := by
  unfold constantUnit at knownIs
  split at knownIs
  · rename_i named
    split at knownIs
    · cases knownIs
    · cases parses : TimeUnit.parse named.display with
      | error failure =>
          rw [parses] at knownIs
          cases knownIs
      | ok parsed =>
          rw [parses] at knownIs
          cases knownIs
          exact ⟨named, rfl, parses⟩
  · cases knownIs

/-- A sum of dates that does not move a time of day is a timestamp, or else a date moved by a unit
that keeps dates. -/
theorem callType_dateAdd {context : Context} {unit : Expr} {named : Value} {parsed : TimeUnit}
    {known : Option TimeUnit} {moved : DataType} (knownIs : constantUnit unit = .ok known)
    (names : unit.evaluate context = .ok named) (parses : TimeUnit.parse named.display = .ok parsed)
    (other : moved ≠ .time) :
    callType .dateAdd known moved = .timestamp ∨
      callType .dateAdd known moved = .date ∧ parsed.keepsDate = true := by
  cases moved with
  | time => exact absurd rfl other
  | date =>
      cases known with
      | none => exact .inl rfl
      | some unit =>
          -- The unit that is known beforehand is the one the call is evaluated with.
          obtain ⟨constant, rfl, constantParses⟩ := constantUnit_eq_some knownIs
          cases names
          rw [parses] at constantParses
          cases constantParses
          simp only [callType]
          by_cases keeps : parsed.keepsDate = true
          · rw [if_pos keeps]
            exact .inr ⟨rfl, keeps⟩
          · rw [if_neg keeps]
            exact .inl rfl
  | _ => exact .inl rfl

end Resolution

namespace DateFunction

/-- A sum of dates denotes an instant as many units further on as it adds. -/
theorem index_of_addUnits {type : DataType} {unit : TimeUnit} {count : Int64}
    {instant : Timestamp} {moved : Value} (sharp : instant.time.isLeap = false)
    (fits : type = .timestamp ∨ type = .date ∧ unit.keepsDate = true)
    (moves : addUnits type unit count instant = .ok moved) :
    ∃ finish, moved.Denotes finish ∧ unit.index finish = unit.index instant + count.toInt := by
  obtain ⟨reached, adds, converts⟩ := addUnits_eq_ok.mp moves
  have counted := TimeUnit.index_add sharp adds
  rcases fits with rfl | ⟨rfl, keeps⟩
  · cases converts
    exact ⟨reached, Value.denotes_timestamp reached, counted⟩
  · cases converts
    refine ⟨.atMidnight reached.date, Value.denotes_date reached.date, ?_⟩
    rw [← counted]
    exact TimeUnit.index_eq_of_date keeps rfl

/-- The difference from an instant to where a sum moved it is what the sum added. -/
theorem evaluate_dateDiff_of_dateAdd {type other : DataType} {named moment moved : Value}
    {number : Int64} {instant : Timestamp} (present : named.isNull = false)
    (denotes : moment.Denotes instant) (sharp : instant.time.isLeap = false)
    (fits : ∀ parsed, TimeUnit.parse named.display = .ok parsed →
      type = .timestamp ∨ type = .date ∧ parsed.keepsDate = true)
    (adds : dateAdd.evaluate type (.ok named) (.ok (.bigint number)) (.ok moment) = .ok moved) :
    dateDiff.evaluate other (.ok named) (.ok moment) (.ok moved) = .ok (.bigint number) := by
  obtain ⟨_, namedIs, ⟨absent, _⟩ | ⟨_, parsed, parses, evaluates⟩⟩ := evaluate_eq_ok.mp adds
  · cases namedIs
    rw [present] at absent
    cases absent
  · cases namedIs
    obtain ⟨_, counts, moves⟩ := (evaluateIn_dateAdd_eq_ok rfl denotes).mp evaluates
    cases counts
    obtain ⟨finish, finishDenotes, counted⟩ := index_of_addUnits sharp (fits parsed parses) moves
    have between : parsed.between instant finish = number.toInt := by
      rw [TimeUnit.between, counted]
      omega
    apply evaluate_eq_ok.mpr
    refine ⟨named, rfl, .inr ⟨present, parsed, parses, ?_⟩⟩
    rw [evaluateIn_dateDiff denotes finishDenotes, between, Int64.ofInt_toInt]

end DateFunction

/-- The difference of dates from an instant to a sum of dates that moves it counts the units that
the sum adds, for an argument that is not resolved as a time of day. -/
theorem dateDiff_dateAdd {context : Context} {unit count start finish : Expr}
    {type other : Option DataType} {named moment moved : Value} {number : Int64}
    {instant : Timestamp} (names : unit.Yields context named) (present : named.isNull = false)
    (counts : count.Yields context (.bigint number)) (starts : start.Yields context moment)
    (denotes : moment.Denotes instant) (sharp : instant.time.isLeap = false)
    (dated : ∀ resolved, start.resolve context.mode = .ok resolved → resolved.type ≠ .time)
    (adds : (Expr.call .dateAdd unit count start type).Yields context moved)
    (finishes : finish.Yields context moved) :
    (Expr.call .dateDiff unit start finish other).Yields context (.bigint number) := by
  obtain ⟨unit', unitIs, unitValue⟩ := names
  obtain ⟨count', countIs, countValue⟩ := counts
  obtain ⟨start', startIs, startValue⟩ := starts
  obtain ⟨finish', finishIs, finishValue⟩ := finishes
  obtain ⟨sum, sumResolves, sumValue⟩ := adds
  simp only [Expr.resolve, unitIs, countIs, startIs] at sumResolves
  change call .dateAdd unit' count' start' = .ok sum at sumResolves
  obtain ⟨known, knownIs, _⟩ := call_eq_ok sumResolves
  rw [evaluate_of_call knownIs sumResolves, unitValue, countValue, startValue] at sumValue
  have fits (parsed : TimeUnit) (parses : TimeUnit.parse named.display = .ok parsed) :=
    callType_dateAdd knownIs unitValue parses (dated start' startIs)
  have counted : valueOf context (call .dateDiff unit' start' finish') = .ok (.bigint number) := by
    rw [valueOf_call knownIs, unitValue, startValue, finishValue]
    exact DateFunction.evaluate_dateDiff_of_dateAdd present denotes sharp fits sumValue
  obtain ⟨difference, resolves, value⟩ := bind_eq_ok.mp counted
  refine ⟨difference, ?_, value⟩
  simp only [Expr.resolve, unitIs, startIs, finishIs]
  exact resolves

/-- A month back from the last day of March 2024 is the last day of February, and the difference
to it is a month back again. -/
theorem dateDiff_to_leap_day :
    let march : Expr := .literal (.date ⟨738976, by decide, by decide⟩)
    let february : Expr := .literal (.date ⟨738945, by decide, by decide⟩)
    let context : Context := ⟨.regular, [], []⟩
    (Expr.call .dateAdd (.string "month") (.literal (.bigint (-1))) march none).Yields context
        (.date ⟨738945, by decide, by decide⟩) ∧
      (Expr.call .dateDiff (.string "month") march february none).Yields context
        (.bigint (-1)) := by
  intro march february context
  have names : (Expr.string "month").Yields context (.varchar "month") := ⟨_, rfl, rfl⟩
  have counts : (Expr.literal (.bigint (-1))).Yields context (.bigint (-1)) := ⟨_, rfl, rfl⟩
  have starts : march.Yields context (.date ⟨738976, by decide, by decide⟩) := ⟨_, rfl, rfl⟩
  have finishes : february.Yields context (.date ⟨738945, by decide, by decide⟩) := ⟨_, rfl, rfl⟩
  have dated : ∀ resolved, march.resolve context.mode = .ok resolved → resolved.type ≠ .time := by
    intro resolved resolves
    cases resolves
    nofun
  have adds : (Expr.call .dateAdd (.string "month") (.literal (.bigint (-1))) march none).Yields
      context (.date ⟨738945, by decide, by decide⟩) := ⟨_, rfl, rfl⟩
  exact ⟨adds, dateDiff_dateAdd names rfl counts starts (Value.denotes_date _) rfl dated adds
    finishes⟩

end SqlScalar
