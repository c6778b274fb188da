import Mathlib.Data.Int.ConditionallyCompleteOrder
import Mathlib.Data.Int.Interval
import Mathlib.Data.Set.Card
import Mathlib.Order.SuccPred.Basic
import SqlScalar.Proofs.ParallelNodes
import SqlScalar.Proofs.UnitCounts

/-! # Starts of units

The difference of dates between two instants is the number of units that start behind the first
one and up to the second one: years and months on their first day, weeks on Mondays, and every
other unit on the full one. Each unit places its starts on the line of instants one after another,
so that the number of an instant's unit is that of the last start up to it.
-/

namespace SqlScalar

namespace Calendar

/-- Whether a date is a Monday, told from the first day of 1970, which was a Thursday. -/
def Date.IsMonday (date : Date) : Prop :=
  (date.ordinal - Date.epoch.ordinal + 3) % 7 = 0

namespace TimeUnit

/-- Whether a unit of time starts at an instant outside leap seconds. -/
def Starts (unit : TimeUnit) (instant : Timestamp) : Prop :=
  match unit with
  | .year => instant.time = .midnight ∧ instant.date.day = 1 ∧ instant.date.month = 1
  | .month => instant.time = .midnight ∧ instant.date.day = 1
  | .week => instant.time = .midnight ∧ instant.date.IsMonday
  | .day => instant.time = .midnight
  | .hour => instant.time.second % 3600 = 0 ∧ instant.time.nano = 0
  | .minute => instant.time.second % 60 = 0 ∧ instant.time.nano = 0
  | .second => instant.time.nano = 0
  | .millisecond => instant.time.nano % 1000000 = 0

/-- The instants behind one instant and up to another at which a unit starts. -/
def startsBetween (unit : TimeUnit) (start finish : Timestamp) : Set Timestamp :=
  {instant | instant.time.isLeap = false ∧ unit.Starts instant ∧
    start.compare instant = .lt ∧ instant.compare finish ≠ .gt}

end TimeUnit

section Months

/-- The ordinal of the first day of a month. -/
def monthStart (index : Int) : Int :=
  Date.civilOrdinal (index / 12) (index % 12 + 1) 1

/-- Every month has a day. -/
theorem monthLength_pos (year : Int) {month : Int} (first : 1 ≤ month) (last : month ≤ 12) :
    0 < monthLength year month := by
  have leap := leapDays_eq year
  unfold monthLength
  rcases month_cases first last with
    rfl | rfl | rfl | rfl | rfl | rfl | rfl | rfl | rfl | rfl | rfl | rfl
  all_goals
    simp only [daysBeforeMonth, Int.reduceAdd, Int.reduceLE, Int.reduceEq, ↓reduceIte]
    omega

/-- A month ends where the next one starts, be it in the next year. -/
theorem monthStart_add_length (index : Int) :
    monthStart index + monthLength (index / 12) (index % 12 + 1) = monthStart (index + 1) := by
  simp only [monthStart, Date.civilOrdinal, monthLength]
  by_cases isLast : index % 12 = 11
  · have nextYear : (index + 1) / 12 = index / 12 + 1 := by omega
    have january : (index + 1) % 12 = 0 := by omega
    have december : daysBeforeMonth (index / 12) (11 + 1 + 1) = 365 + leapDays (index / 12) := rfl
    have before : daysBeforeMonth (index / 12 + 1) (0 + 1) = 0 := rfl
    rw [nextYear, january, isLast, daysBeforeYear_succ, december, before]
    omega
  · have sameYear : (index + 1) / 12 = index / 12 := by omega
    have nextMonth : (index + 1) % 12 = index % 12 + 1 := by omega
    rw [sameYear, nextMonth]
    omega

theorem monthStart_lt_succ (index : Int) : monthStart index < monthStart (index + 1) := by
  have long : 0 < monthLength (index / 12) (index % 12 + 1) :=
    monthLength_pos _ (by omega) (by omega)
  rw [← monthStart_add_length]
  omega

theorem monthStart_strictMono : StrictMono monthStart :=
  strictMono_int_of_lt_succ monthStart_lt_succ

namespace Date

variable (date : Date)

/-- A date lies in its month by the day that it has there. -/
theorem monthStart_monthIndex : monthStart date.monthIndex + date.day = date.ordinal + 1 := by
  obtain ⟨⟨first, last⟩, _⟩ := date.civil_bounds
  have yearIs : date.monthIndex / 12 = date.year := date.year_eq_monthIndex.symm
  have monthIs : date.monthIndex % 12 + 1 = date.month := by
    rw [monthIndex]
    omega
  rw [monthStart, yearIs, monthIs, civilOrdinal, day, dayOfYear]
  omega

/-- No date lies behind the end of its month. -/
theorem day_le_monthLength : date.day ≤ monthLength date.year date.month := by
  have found := date.ofCivil?_civil
  unfold ofCivil? at found
  split at found
  · rename_i valid
    exact valid.2.2.2
  · cases found

/-- The month a date lies in is the last one that has started. -/
theorem monthStart_le_iff (index : Int) :
    monthStart index ≤ date.ordinal ↔ index ≤ date.monthIndex := by
  have started := date.monthStart_monthIndex
  obtain ⟨⟨first, last⟩, firstDay, _⟩ := date.civil_bounds
  have lastDay := date.day_le_monthLength
  have goesOn : date.ordinal < monthStart (date.monthIndex + 1) := by
    have yearIs : date.monthIndex / 12 = date.year := date.year_eq_monthIndex.symm
    have monthIs : date.monthIndex % 12 + 1 = date.month := by
      rw [monthIndex]
      omega
    rw [← monthStart_add_length, yearIs, monthIs]
    omega
  constructor
  · intro begun
    by_contra later
    have ended := monthStart_strictMono.monotone (Int.add_one_le_of_lt (Int.not_le.mp later))
    omega
  · intro earlier
    have ordered := monthStart_strictMono.monotone earlier
    omega

/-- The first day of a month is the day on which the month starts. -/
theorem monthStart_eq_iff (index : Int) :
    monthStart index = date.ordinal ↔ index = date.monthIndex ∧ date.day = 1 := by
  have started := date.monthStart_monthIndex
  constructor
  · intro same
    have begun := (date.monthStart_le_iff index).mp (Int.le_of_eq same)
    have next := mt (date.monthStart_le_iff (index + 1)).mpr
    have ended := monthStart_lt_succ index
    have indexIs : index = date.monthIndex := by omega
    rw [← indexIs] at started
    exact ⟨indexIs, by omega⟩
  · rintro ⟨rfl, isFirst⟩
    omega

end Date

end Months

namespace Timestamp

variable {start finish instant : Timestamp}

theorem compare_eq_gt_iff : start.compare finish = .gt ↔ finish.compare start = .lt := by
  simp only [compare, Date.compare, TimeOfDay.compare, Ordering.then_eq_gt, Ordering.then_eq_lt,
    Int.compare_eq_gt, Int.compare_eq_lt, Int.compare_eq_eq, Nat.compare_eq_gt, Nat.compare_eq_lt,
    Nat.compare_eq_eq]
  omega

section Order

variable (sharp : start.time.isLeap = false) (finishSharp : finish.time.isLeap = false)

include sharp finishSharp

/-- Outside leap seconds the earlier instant has fewer nanoseconds since 1970. -/
theorem compare_eq_lt_iff : start.compare finish = .lt ↔ start.sinceEpoch < finish.sinceEpoch := by
  have nano_lt := TimeOfDay.nano_lt_of_sharp sharp
  have finish_nano_lt := TimeOfDay.nano_lt_of_sharp finishSharp
  have second_lt := start.time.second_lt
  have finish_second_lt := finish.time.second_lt
  simp only [compare, Date.compare, TimeOfDay.compare, Ordering.then_eq_lt, Int.compare_eq_lt,
    Int.compare_eq_eq, Nat.compare_eq_lt, Nat.compare_eq_eq, sinceEpoch, daysSinceEpoch,
    TimeOfDay.nanoseconds, nanosPerDay, secondsPerDay, nanosPerSecond] at *
  omega

/-- Outside leap seconds an instant that is not later has no more nanoseconds since 1970. -/
theorem compare_ne_gt_iff : start.compare finish ≠ .gt ↔ start.sinceEpoch ≤ finish.sinceEpoch := by
  rw [ne_eq, compare_eq_gt_iff, compare_eq_lt_iff finishSharp sharp, Int.not_lt]

/-- Every place between two instants is one. -/
theorem exists_at {place : Int} (begun : start.sinceEpoch ≤ place)
    (goesOn : place ≤ finish.sinceEpoch) :
    ∃ instant : Timestamp, instant.time.isLeap = false ∧ instant.sinceEpoch = place := by
  have first := start.date.first_le
  have last := finish.date.le_last
  have days := daysSinceEpoch_eq sharp
  have finishDays := daysSinceEpoch_eq finishSharp
  have ordered := Int.ediv_le_ediv (c := nanosPerDay) (by decide) begun
  have finishOrdered := Int.ediv_le_ediv (c := nanosPerDay) (by decide) goesOn
  simp only [daysSinceEpoch] at days finishDays
  have reached : firstOrdinal ≤ place / nanosPerDay + Date.epoch.ordinal := by omega
  have within : place / nanosPerDay + Date.epoch.ordinal ≤ lastOrdinal := by omega
  refine ⟨⟨⟨_, reached, within⟩, .ofNanoseconds place⟩, TimeOfDay.isLeap_ofNanoseconds _, ?_⟩
  rw [sinceEpoch, daysSinceEpoch, TimeOfDay.nanoseconds_ofNanoseconds, Int.add_sub_cancel]
  exact Int.ediv_mul_add_emod _ _

end Order

/-- Outside leap seconds it is midnight just when no nanosecond has passed. -/
theorem time_eq_midnight_iff (sharp : instant.time.isLeap = false) :
    instant.time = .midnight ↔ instant.time.nanoseconds = 0 := by
  have midnightSharp : TimeOfDay.midnight.isLeap = false := rfl
  constructor
  · intro isMidnight
    rw [isMidnight]
    rfl
  · intro isZero
    exact TimeOfDay.eq_of_nanoseconds sharp midnightSharp isZero

end Timestamp

namespace TimeUnit

variable {unit : TimeUnit} {start finish instant : Timestamp}

/-- A unit that starts at places on the line of instants, at least a millisecond apart, and numbers
an instant like the last start up to it. -/
structure PlacesStarts (unit : TimeUnit) (place : Int → Int) : Prop where
  apart : ∀ number, place number + 1000000 ≤ place (number + 1)
  place_le_iff : ∀ instant, instant.time.isLeap = false → ∀ number,
    place number ≤ instant.sinceEpoch ↔ number ≤ unit.index instant
  starts_iff : ∀ instant, instant.time.isLeap = false →
    (unit.Starts instant ↔ ∃ number, place number = instant.sinceEpoch)

/-- A unit of a fixed length starts at the multiples of that length, from its origin on. -/
theorem NumbersLine.placesStarts {length origin : Int} (numbers : unit.NumbersLine length origin)
    (long : 1000000 ≤ length)
    (starts : ∀ instant, instant.time.isLeap = false →
      (unit.Starts instant ↔ (instant.sinceEpoch + origin) % length = 0)) :
    unit.PlacesStarts fun number => number * length - origin where
  apart number := by
    rw [Int.add_mul]
    omega
  place_le_iff instant sharp number := by
    rw [numbers.index_eq instant sharp, Int.le_ediv_iff_mul_le numbers.positive]
    omega
  starts_iff instant sharp := by
    rw [starts instant sharp]
    constructor
    · intro divides
      have whole := Int.ediv_mul_add_emod (instant.sinceEpoch + origin) length
      exact ⟨(instant.sinceEpoch + origin) / length, by omega⟩
    · rintro ⟨number, same⟩
      have whole : instant.sinceEpoch + origin = number * length := by omega
      rw [whole]
      exact Int.mul_emod_left number length

/-- A unit of some months starts where every so many months do. -/
theorem NumbersMonths.placesStarts {size : Int} (numbers : unit.NumbersMonths size)
    (starts : ∀ instant : Timestamp, unit.Starts instant ↔
      instant.time = .midnight ∧ instant.date.day = 1 ∧ instant.date.monthIndex % size = 0) :
    unit.PlacesStarts fun number =>
      (monthStart (number * size) - Date.epoch.ordinal) * nanosPerDay where
  apart number := by
    have positive := numbers.positive
    have later : number * size < (number + 1) * size := by
      rw [Int.add_mul]
      omega
    have ordered := monthStart_strictMono later
    simp only [nanosPerDay, secondsPerDay, nanosPerSecond]
    omega
  place_le_iff instant sharp number := by
    have nonneg := instant.time.nanoseconds_nonneg
    have short := TimeOfDay.nanoseconds_lt sharp
    rw [numbers.index_eq, Int.le_ediv_iff_mul_le numbers.positive, ← Date.monthStart_le_iff]
    simp only [Timestamp.sinceEpoch, Timestamp.daysSinceEpoch, nanosPerDay, secondsPerDay,
      nanosPerSecond] at *
    omega
  starts_iff instant sharp := by
    have nonneg := instant.time.nanoseconds_nonneg
    have short := TimeOfDay.nanoseconds_lt sharp
    -- A place at the start of a day is one at midnight on that day.
    have isPlace (number : Int) :
        (monthStart (number * size) - Date.epoch.ordinal) * nanosPerDay = instant.sinceEpoch ↔
          instant.time = .midnight ∧ monthStart (number * size) = instant.date.ordinal := by
      rw [Timestamp.time_eq_midnight_iff sharp]
      simp only [Timestamp.sinceEpoch, Timestamp.daysSinceEpoch, nanosPerDay, secondsPerDay,
        nanosPerSecond] at *
      omega
    rw [starts]
    constructor
    · rintro ⟨isMidnight, isFirst, divides⟩
      have whole := Int.ediv_mul_add_emod instant.date.monthIndex size
      rw [divides, Int.add_zero] at whole
      refine ⟨instant.date.monthIndex / size, (isPlace _).mpr ⟨isMidnight, ?_⟩⟩
      rw [whole]
      exact (instant.date.monthStart_eq_iff _).mpr ⟨rfl, isFirst⟩
    · rintro ⟨number, same⟩
      obtain ⟨isMidnight, started⟩ := (isPlace number).mp same
      obtain ⟨indexIs, isFirst⟩ := (instant.date.monthStart_eq_iff _).mp started
      refine ⟨isMidnight, isFirst, ?_⟩
      rw [← indexIs]
      exact Int.mul_emod_left number size

/-- Every unit has places at which it starts. -/
theorem exists_placesStarts (unit : TimeUnit) : ∃ place, unit.PlacesStarts place := by
  cases unit with
  | year =>
      refine ⟨_, year_numbersMonths.placesStarts fun instant => ?_⟩
      obtain ⟨⟨first, last⟩, _⟩ := instant.date.civil_bounds
      have january : instant.date.month = 1 ↔ instant.date.monthIndex % 12 = 0 := by
        rw [Date.monthIndex]
        omega
      rw [Starts, january]
  | month =>
      refine ⟨_, month_numbersMonths.placesStarts fun instant => ?_⟩
      rw [Starts, Int.emod_one]
      simp only [and_true]
  | week =>
      refine ⟨_, week_numbersLine.placesStarts (by decide) fun instant sharp => ?_⟩
      have nonneg := instant.time.nanoseconds_nonneg
      have short := TimeOfDay.nanoseconds_lt sharp
      rw [Starts, Timestamp.time_eq_midnight_iff sharp, Date.IsMonday]
      simp only [Timestamp.sinceEpoch, Timestamp.daysSinceEpoch, nanosPerDay, secondsPerDay,
        nanosPerSecond] at *
      omega
  | day =>
      refine ⟨_, day_numbersLine.placesStarts (by decide) fun instant sharp => ?_⟩
      have nonneg := instant.time.nanoseconds_nonneg
      have short := TimeOfDay.nanoseconds_lt sharp
      rw [Starts, Timestamp.time_eq_midnight_iff sharp]
      simp only [Timestamp.sinceEpoch, Timestamp.daysSinceEpoch, nanosPerDay, secondsPerDay,
        nanosPerSecond] at *
      omega
  | hour =>
      refine ⟨_, hour_numbersLine.placesStarts (by decide) fun instant sharp => ?_⟩
      have nano_lt := TimeOfDay.nano_lt_of_sharp sharp
      simp only [Starts, Timestamp.sinceEpoch, TimeOfDay.nanoseconds, nanosPerDay, secondsPerDay,
        nanosPerSecond] at *
      omega
  | minute =>
      refine ⟨_, minute_numbersLine.placesStarts (by decide) fun instant sharp => ?_⟩
      have nano_lt := TimeOfDay.nano_lt_of_sharp sharp
      simp only [Starts, Timestamp.sinceEpoch, TimeOfDay.nanoseconds, nanosPerDay, secondsPerDay,
        nanosPerSecond] at *
      omega
  | second =>
      refine ⟨_, second_numbersLine.placesStarts (by decide) fun instant sharp => ?_⟩
      have nano_lt := TimeOfDay.nano_lt_of_sharp sharp
      simp only [Starts, Timestamp.sinceEpoch, TimeOfDay.nanoseconds, nanosPerDay, secondsPerDay,
        nanosPerSecond] at *
      omega
  | millisecond =>
      refine ⟨_, millisecond_numbersLine.placesStarts (by decide) fun instant sharp => ?_⟩
      have nano_lt := TimeOfDay.nano_lt_of_sharp sharp
      simp only [Starts, Timestamp.sinceEpoch, TimeOfDay.nanoseconds, nanosPerDay, secondsPerDay,
        nanosPerSecond] at *
      omega

namespace PlacesStarts

variable {place : Int → Int} (places : unit.PlacesStarts place)

include places

theorem strictMono : StrictMono place :=
  strictMono_int_of_lt_succ fun number => by
    have apart := places.apart number
    omega

/-- Places lie at least a millisecond apart for each number between them. -/
theorem spread (number : Int) (count : Nat) :
    place number + count * 1000000 ≤ place (number + count) := by
  induction count with
  | zero => simp only [Int.natCast_zero, Int.zero_mul, Int.add_zero, Int.le_refl]
  | succ count ih =>
      have apart := places.apart (number + count)
      rw [Int.natCast_succ, ← Int.add_assoc]
      omega

section Between

variable (sharp : start.time.isLeap = false) (finishSharp : finish.time.isLeap = false)

include sharp finishSharp

theorem index_mono (ordered : start.sinceEpoch ≤ finish.sinceEpoch) :
    unit.index start ≤ unit.index finish := by
  apply (places.place_le_iff finish finishSharp _).mp
  exact Int.le_trans ((places.place_le_iff start sharp _).mpr (Int.le_refl _)) ordered

/-- The places of the starts between two instants are those with the numbers in between. -/
theorem image_startsBetween :
    Timestamp.sinceEpoch '' unit.startsBetween start finish =
      place '' Set.Ioc (unit.index start) (unit.index finish) := by
  ext position
  constructor
  · rintro ⟨instant, ⟨instantSharp, starts, behind, upTo⟩, rfl⟩
    rw [Timestamp.compare_eq_lt_iff sharp instantSharp] at behind
    rw [Timestamp.compare_ne_gt_iff instantSharp finishSharp] at upTo
    obtain ⟨number, placeIs⟩ := (places.starts_iff instant instantSharp).mp starts
    refine ⟨number, ⟨?_, ?_⟩, placeIs⟩
    · apply Int.not_le.mp
      rw [← places.place_le_iff start sharp, placeIs]
      omega
    · rw [← places.place_le_iff finish finishSharp, placeIs]
      exact upTo
  · rintro ⟨number, ⟨behind, upTo⟩, rfl⟩
    have later := mt (places.place_le_iff start sharp number).mp (Int.not_le.mpr behind)
    have reached := (places.place_le_iff finish finishSharp number).mpr upTo
    obtain ⟨instant, instantSharp, placeIs⟩ :=
      Timestamp.exists_at sharp finishSharp (Int.le_of_lt (Int.not_le.mp later)) reached
    refine ⟨instant, ⟨instantSharp, ?_, ?_, ?_⟩, placeIs⟩
    · exact (places.starts_iff instant instantSharp).mpr ⟨number, placeIs.symm⟩
    · rw [Timestamp.compare_eq_lt_iff sharp instantSharp, placeIs]
      exact Int.not_le.mp later
    · rw [Timestamp.compare_ne_gt_iff instantSharp finishSharp, placeIs]
      exact reached

/-- The starts between two instants are as many as the units counted between them. -/
theorem encard_startsBetween :
    (unit.startsBetween start finish).encard = (unit.between start finish).toNat := by
  have apart : Set.InjOn Timestamp.sinceEpoch (unit.startsBetween start finish) := by
    rintro left ⟨leftSharp, _⟩ right ⟨rightSharp, _⟩ same
    exact Timestamp.eq_of_sinceEpoch rightSharp leftSharp same
  calc (unit.startsBetween start finish).encard
      = (Timestamp.sinceEpoch '' unit.startsBetween start finish).encard :=
        apart.encard_image.symm
    _ = (place '' Set.Ioc (unit.index start) (unit.index finish)).encard := by
        rw [places.image_startsBetween sharp finishSharp]
    _ = (Set.Ioc (unit.index start) (unit.index finish)).encard :=
        places.strictMono.injective.encard_image _
    _ = (Finset.Ioc (unit.index start) (unit.index finish)).card := by
        rw [← Finset.coe_Ioc, Set.encard_coe_eq_coe_finsetCard]
    _ = (unit.between start finish).toNat := by
        rw [Int.card_Ioc]
        rfl

/-- The calendar has fewer milliseconds than there are numbers of 64 bits. -/
theorem between_lt (ordered : start.sinceEpoch ≤ finish.sinceEpoch) :
    unit.between start finish < 2 ^ 63 := by
  have distance : start.advance (finish.sinceEpoch - start.sinceEpoch) = some finish :=
    (Timestamp.advance_eq_some sharp).mpr ⟨finishSharp, by omega⟩
  have bounded := Timestamp.natAbs_lt_of_advance sharp distance
  have behind := mt (places.place_le_iff start sharp (unit.index start + 1)).mp (by omega)
  have reached := (places.place_le_iff finish finishSharp _).mpr (Int.le_refl _)
  -- The first start lies behind one instant and the last one not behind the other, so the starts
  -- are spread over the distance between the two.
  have further := places.spread (unit.index start + 1) (unit.between start finish - 1).toNat
  by_cases none : unit.between start finish ≤ 0
  · omega
  · have lastIs : unit.index start + 1 + (unit.between start finish - 1).toNat =
        unit.index finish := by
      rw [between] at none ⊢
      omega
    rw [lastIs] at further
    simp only [nanosPerDay, secondsPerDay, nanosPerSecond] at bounded
    omega

end Between

end PlacesStarts

end TimeUnit

end Calendar

open Calendar Resolution

namespace Resolution

/-- A unit with a value that names one is not refused when it is resolved. -/
theorem constantUnit_of_evaluate {context : Context} {unit : Expr} {named : Value}
    {parsed : TimeUnit} (evaluates : unit.evaluate context = .ok named)
    (present : named.isNull = false) (parses : TimeUnit.parse named.display = .ok parsed) :
    ∃ known, constantUnit unit = .ok known := by
  cases varying : unit.isConstant with
  | true =>
      obtain ⟨constant, rfl⟩ := Expr.eq_literal_of_isConstant varying
      cases evaluates
      exact ⟨_, constantUnit_literal present parses⟩
  | false => exact ⟨_, constantUnit_of_varying varying⟩

end Resolution

section Difference

variable {context : Context} {unit start finish : Expr} {named moment reached : Value}
  {parsed : TimeUnit} {startInstant finishInstant : Timestamp} (type other : Option DataType)
  (names : unit.Yields context named) (present : named.isNull = false)
  (parses : TimeUnit.parse named.display = .ok parsed)

include names present parses

/-- A difference of dates yields the number of units between the two. -/
theorem yields_dateDiff (starts : start.Yields context moment)
    (denotes : moment.Denotes startInstant) (finishes : finish.Yields context reached)
    (finishDenotes : reached.Denotes finishInstant) :
    (Expr.call .dateDiff unit start finish type).Yields context
      (.bigint (Int64.ofInt (parsed.between startInstant finishInstant))) := by
  obtain ⟨unit', unitIs, unitValue⟩ := names
  obtain ⟨start', startIs, startValue⟩ := starts
  obtain ⟨finish', finishIs, finishValue⟩ := finishes
  obtain ⟨known, knownIs⟩ := constantUnit_of_evaluate unitValue present parses
  have counted : valueOf context (call .dateDiff unit' start' finish') =
      .ok (.bigint (Int64.ofInt (parsed.between startInstant finishInstant))) := by
    rw [valueOf_call knownIs, unitValue, startValue, finishValue]
    apply DateFunction.evaluate_eq_ok.mpr
    refine ⟨named, rfl, .inr ⟨present, parsed, parses, ?_⟩⟩
    exact DateFunction.evaluateIn_dateDiff denotes finishDenotes
  obtain ⟨difference, resolves, value⟩ := bind_eq_ok.mp counted
  refine ⟨difference, ?_, value⟩
  simp only [Expr.resolve, unitIs, startIs, finishIs]
  exact resolves

/-- The difference of dates from one instant to a later one is the number of instants behind the
first one and up to the second one at which the unit starts, and the difference back is the
opposite number. -/
theorem dateDiff_counts_starts (starts : start.Yields context moment)
    (denotes : moment.Denotes startInstant) (finishes : finish.Yields context reached)
    (finishDenotes : reached.Denotes finishInstant) (sharp : startInstant.time.isLeap = false)
    (finishSharp : finishInstant.time.isLeap = false)
    (ordered : startInstant.compare finishInstant ≠ .gt) :
    ∃ (count : Nat) (forth back : Int64),
      (parsed.startsBetween startInstant finishInstant).encard = count ∧
        forth.toInt = count ∧ back.toInt = -count ∧
        (Expr.call .dateDiff unit start finish type).Yields context (.bigint forth) ∧
        (Expr.call .dateDiff unit finish start other).Yields context (.bigint back) := by
  rw [Timestamp.compare_ne_gt_iff sharp finishSharp] at ordered
  obtain ⟨place, places⟩ := parsed.exists_placesStarts
  have nonneg : 0 ≤ parsed.between startInstant finishInstant := by
    have mono := places.index_mono sharp finishSharp ordered
    rw [TimeUnit.between]
    omega
  have bounded := places.between_lt sharp finishSharp ordered
  have reversed : parsed.between finishInstant startInstant =
      -parsed.between startInstant finishInstant := by
    rw [TimeUnit.between, TimeUnit.between]
    omega
  refine ⟨(parsed.between startInstant finishInstant).toNat, _, _,
    places.encard_startsBetween sharp finishSharp, ?_, ?_,
    yields_dateDiff type names present parses starts denotes finishes finishDenotes,
    yields_dateDiff other names present parses finishes finishDenotes starts denotes⟩
  · rw [Int64.toInt_ofInt_of_le (by omega) bounded]
    omega
  · rw [reversed, Int64.toInt_ofInt_of_le (by omega) (by omega)]
    omega

end Difference

/-- From the last nanosecond of the last Sunday of 1969 to the Monday behind it one week starts. -/
theorem dateDiff_counts_week_before_epoch :
    let sunday : Timestamp := ⟨⟨719159, by decide, by decide⟩,
      ⟨86399, 999999999, by decide, by decide, by decide⟩⟩
    let monday : Date := ⟨719160, by decide, by decide⟩
    let context : Context := ⟨.regular, [], []⟩
    (TimeUnit.week.startsBetween sunday (.atMidnight monday)).encard = 1 ∧
      (Expr.call .dateDiff (.string "week") (.literal (.timestamp sunday))
        (.literal (.date monday)) none).Yields context (.bigint 1) ∧
      (Expr.call .dateDiff (.string "week") (.literal (.date monday))
        (.literal (.timestamp sunday)) none).Yields context (.bigint (-1)) := by
  intro sunday monday context
  have names : (Expr.string "week").Yields context (.varchar "week") := ⟨_, rfl, rfl⟩
  have parses : TimeUnit.parse (Value.varchar "week").display = .ok .week := rfl
  have starts : (Expr.literal (.timestamp sunday)).Yields context (.timestamp sunday) :=
    ⟨_, rfl, rfl⟩
  have finishes : (Expr.literal (.date monday)).Yields context (.date monday) := ⟨_, rfl, rfl⟩
  obtain ⟨count, forth, back, counted, forthIs, backIs, yields, yieldsBack⟩ :=
    dateDiff_counts_starts none none names rfl parses starts (Value.denotes_timestamp sunday)
      finishes (Value.denotes_date monday) rfl rfl (by decide)
  obtain ⟨_, resolves, evaluates⟩ := yields
  cases resolves
  cases evaluates
  obtain ⟨_, resolves, evaluates⟩ := yieldsBack
  cases resolves
  cases evaluates
  have countIs : (count : Int) = 1 := forthIs.symm
  rw [counted]
  refine ⟨?_, ⟨_, rfl, rfl⟩, ⟨_, rfl, rfl⟩⟩
  have one : count = 1 := by omega
  rw [one]
  rfl

end SqlScalar
