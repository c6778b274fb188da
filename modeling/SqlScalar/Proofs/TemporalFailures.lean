import SqlScalar.Proofs.DayRules

/-! # Failures of temporal operations

Arithmetic on times of day, dates and timestamps that has been resolved has a value for all values
of the types it was resolved for, unless the result is out of range or a divisor is zero. There are
two exceptions. A time of day may be scaled by an operand of any type, and fails if that is no
number. A floating-point number of days is counted in seconds, and fails if their number is not
finite, or if it has no decimal equivalent where decimals are forced.
-/

namespace SqlScalar

open Calendar Resolution

/-- Failures of computations that have no result: beyond a range, or divided by zero. -/
def Failure.isArithmetic : Failure → Bool
  | overflow _ | divisionByZero _ => true
  | _ => false

/-- An outcome that is a value, unless its computation has no result. -/
abbrev Computes {Result : Type} (outcome : Outcome Result) : Prop :=
  Spares (fun failure => !failure.isArithmetic) outcome

/-- An outcome that is a failure to convert a value under a condition, and otherwise a value
unless its computation has no result. -/
structure ConvertsUnless (condition : Prop) (outcome : Outcome Value) : Prop where
  fails : condition → ∃ text target, outcome = .error (.conversion text target)
  computes : ¬ condition → Computes outcome

namespace ConvertsUnless

variable {condition : Prop} {outcome : Outcome Value} {next : Value → Outcome Value}

/-- Where the condition never holds, it is enough that nothing but the computation can fail. -/
theorem of_computes (never : ¬ condition) (computes : Computes outcome) :
    ConvertsUnless condition outcome :=
  ⟨fun holds => absurd holds never, fun _ => computes⟩

theorem of_fails {text : String} {target : DataType} (holds : condition)
    (fails : outcome = .error (.conversion text target)) : ConvertsUnless condition outcome :=
  ⟨fun _ => ⟨text, target, fails⟩, fun never => absurd holds never⟩

/-- Steps behind a conversion do not change why it fails. -/
theorem bind (converts : ConvertsUnless condition outcome)
    (computes : ∀ value, outcome = .ok value → Computes (next value)) :
    ConvertsUnless condition (outcome >>= next) := by
  constructor
  · intro holds
    obtain ⟨text, target, fails⟩ := converts.fails holds
    rw [fails]
    exact ⟨text, target, rfl⟩
  · intro never
    exact (converts.computes never).bind computes

end ConvertsUnless

/-- The types of numbers. -/
def DataType.isNumber : DataType → Bool
  | integer | bigint | decimal | real | double => true
  | _ => false

theorem DataType.isUntyped_of_isFractional {type : DataType} (fraction : type.isFractional = true) :
    type.isUntyped = false := by
  cases type <;> first | rfl | cases fraction

/-- Whether an operation scales a time of day by something that is no number. -/
inductive ArithOp.Misscales : ArithOp → DataType → DataType → Prop
  | product {factor : DataType} (noNumber : factor.isNumber = false) :
      Misscales multiply .time factor
  | productReversed {factor : DataType} (noNumber : factor.isNumber = false) :
      Misscales multiply factor .time
  | quotient {divisor : DataType} (noNumber : divisor.isNumber = false) :
      Misscales divide .time divisor

/-- A time of day may be on either side of its factor. -/
theorem ArithOp.Misscales.symm {left right : DataType} (misscales : Misscales multiply left right) :
    Misscales multiply right left := by
  cases misscales with
  | product noNumber => exact .productReversed noNumber
  | productReversed noNumber => exact .product noNumber

namespace Floating

variable {format : FloatFormat}

/-- Whether a number of days makes no number of seconds that can be counted. -/
def Uncountable (mode : Mode) (days : Floating format) : Prop :=
  if mode.forceDecimal then Decimal.ofFloating? days = none
  else ((ofInt 86400).multiply days).isFinite = false

end Floating

namespace Value

/-- Whether a value is a floating-point number of days that cannot be counted in seconds. -/
def Uncountable (mode : Mode) : Value → Prop
  | real days => days.Uncountable mode
  | double days => days.Uncountable mode
  | _ => False

/-- A floating-point number that is an infinity or no number. -/
def IsUnbounded : Value → Prop
  | real number => number.isFinite = false
  | double number => number.isFinite = false
  | _ => False

section Arithmetic

variable {op : ArithOp} {left right : Value} {clock : TimeOfDay}

theorem computes_orOverflow (result : Option Value) :
    Computes (orOverflow op left right result) := by
  cases result with
  | none => exact Spares.error rfl
  | some value => exact Spares.ok value

theorem computes_unlessDivisor {isZero : Bool} {result : Outcome Value}
    (computes : Computes result) : Computes (unlessDivisor isZero op left right result) := by
  unfold unlessDivisor
  split
  · exact Spares.error rfl
  · exact computes

theorem computes_clockAt (nanoseconds : Int) : Computes (clockAt nanoseconds) := by
  rw [clockAt_eq]
  exact Spares.ok _

theorem isSome_factor? {factor : Value} : factor.factor?.isSome = factor.type.isNumber := by
  cases factor <;> rfl

/-- A time of day can be scaled by any number. -/
theorem computes_scaleTime {factor : Value} (number : factor.type.isNumber = true) :
    Computes (scaleTime op clock factor) := by
  rw [← isSome_factor?] at number
  obtain ⟨scale, isScale⟩ := Option.isSome_iff_exists.mp number
  unfold scaleTime
  rw [isScale]
  refine computes_unlessDivisor ?_
  split
  · exact computes_clockAt _
  · exact Spares.error rfl

theorem scaleTime_of_noNumber {factor : Value} (noNumber : factor.type.isNumber = false) :
    scaleTime op clock factor = .error (.invalidOperands op .time factor.type) := by
  rw [← isSome_factor?, Option.isSome_eq_false_iff, Option.isNone_iff_eq_none] at noNumber
  unfold scaleTime
  rw [noNumber]

end Arithmetic

section Conversion

variable {value : Value}

/-- Times of day, dates and timestamps are instants. -/
theorem convertTo_timestamp_of_isTemporal (isTemporal : value.type.isTemporal = true) :
    ∃ instant, value.convertTo .timestamp = .ok (.timestamp instant) := by
  cases value with
  | time clock => exact ⟨_, rfl⟩
  | date day => exact ⟨_, rfl⟩
  | timestamp instant => exact ⟨_, rfl⟩
  | _ => cases isTemporal

/-- A timestamp converts to any temporal type. -/
theorem convertTo_of_instant {instant : Timestamp} {target : DataType}
    (isTemporal : target.isTemporal = true) :
    ∃ converted, (timestamp instant).convertTo target = .ok converted := by
  cases target with
  | time => exact ⟨_, rfl⟩
  | date => exact ⟨_, rfl⟩
  | timestamp => exact ⟨_, rfl⟩
  | _ => cases isTemporal

/-- A number that can be rounded converts to a `BIGINT` or overflows. -/
theorem computes_convertTo_bigint {whole : Int} (rounds : value.toWhole? = some whole) :
    Computes (value.convertTo .bigint) := by
  unfold convertTo
  split
  · exact Spares.ok _
  · split
    · exact Spares.ok _
    · simp only [convertAcross, convertToWhole, rounds]
      split
      · exact Spares.ok _
      · exact Spares.error rfl

/-- A number with a fraction is rounded to a whole number, unless it is not finite. -/
theorem convertsUnless_convertTo_bigint (fraction : value.type.isFractional = true) :
    ConvertsUnless value.IsUnbounded (value.convertTo .bigint) := by
  cases value with
  | decimal number => exact .of_computes id (computes_convertTo_bigint rfl)
  | real number | double number =>
      cases number with
      | nan => exact .of_fails rfl rfl
      | infinite negative => exact .of_fails rfl rfl
      | finite negative units representable =>
          exact .of_computes nofun (computes_convertTo_bigint rfl)
  | _ => cases fraction

theorem isFinite_negate {format : FloatFormat} (number : Floating format) :
    number.negate.isFinite = number.isFinite := by
  cases number <;> rfl

/-- The opposite of a number with a fraction is not finite if the number is not. -/
theorem negate_of_isFractional (fraction : value.type.isFractional = true) :
    ∃ opposite, value.negate = .ok opposite ∧ opposite.type = value.type ∧
      (opposite.IsUnbounded ↔ value.IsUnbounded) := by
  cases value with
  | decimal number => exact ⟨_, rfl, rfl, Iff.rfl⟩
  | real number => exact ⟨_, rfl, rfl, by rw [IsUnbounded, isFinite_negate, IsUnbounded]⟩
  | double number => exact ⟨_, rfl, rfl, by rw [IsUnbounded, isFinite_negate, IsUnbounded]⟩
  | _ => cases fraction

end Conversion

end Value

section Seconds

variable {mode : Mode} {days : Value}

/-- The number of seconds in a number of days, as a mode has it computed. -/
def secondsIn (mode : Mode) (days : Value) : Outcome Value :=
  (BinaryOp.arith .multiply).evaluate mode (arithmeticType mode days.type) true
    (.ok (.integer 86400)) (.ok days)

/-- Where seconds are computed as decimal numbers, the days are converted and multiplied. -/
theorem secondsIn_of_computed (computed : arithmeticType mode days.type = .decimal) :
    secondsIn mode days = days.convertTo .decimal >>=
      (BinaryOp.arith .multiply).combine mode (.decimal (Decimal.ofInt64 86400)) := by
  simp only [secondsIn, BinaryOp.evaluate, BinaryOp.convertRight, computed]
  rfl

/-- Days that are a decimal number are a decimal number of seconds, unless that overflows. -/
theorem secondsIn_of_decimal {number : Decimal}
    (computed : arithmeticType mode days.type = .decimal)
    (converts : days.convertTo .decimal = .ok (.decimal number)) :
    (∃ computation, secondsIn mode days = .error (.overflow computation)) ∨
      ∃ seconds, secondsIn mode days = .ok (.decimal seconds) := by
  have multiplies : secondsIn mode days =
      (Value.decimal (Decimal.ofInt64 86400)).arith .multiply (.decimal number) := by
    rw [secondsIn_of_computed computed, converts]
    rfl
  rw [multiplies]
  simp only [Value.arith, Value.unlessDivisor, ArithOp.divides, Bool.false_and, Bool.false_eq_true,
    ↓reduceIte]
  cases ArithOp.onDecimals? .multiply (Decimal.ofInt64 86400) number with
  | none => exact .inl ⟨_, rfl⟩
  | some seconds => exact .inr ⟨seconds, rfl⟩

theorem convert_daySeconds : (Floating.ofInt 86400 : Floating .double).convert =
    (Floating.ofInt 86400 : Floating .single) := by
  decide +kernel

/-- Arithmetic on decimal numbers is done on decimal numbers under any mode. -/
theorem arithmeticType_decimal (mode : Mode) : arithmeticType mode .decimal = .decimal := by
  unfold arithmeticType
  split
  · rfl
  · rfl

variable {next : Value → Outcome Value}
  (after : ∀ seconds : Value, seconds.type = arithmeticType mode days.type →
    ConvertsUnless seconds.IsUnbounded (next seconds))

include after

/-- A decimal number of days can be counted in seconds, as far as it converts. -/
theorem convertsUnless_of_decimal {number : Decimal} (countable : ¬ days.Uncountable mode)
    (computed : arithmeticType mode days.type = .decimal)
    (converts : days.convertTo .decimal = .ok (.decimal number)) :
    ConvertsUnless (days.Uncountable mode) (secondsIn mode days >>= next) := by
  apply ConvertsUnless.of_computes countable
  rcases secondsIn_of_decimal computed converts with ⟨_, overflows⟩ | ⟨seconds, isSeconds⟩
  · rw [overflows]
    exact Spares.error rfl
  · rw [isSeconds]
    exact (after (.decimal seconds) computed.symm).computes id

/-- A floating-point number of days is converted to a decimal number if a mode forces that, and
multiplied in its own format if not. -/
theorem convertsUnless_of_floating {format : FloatFormat} {number : Floating format}
    (uncountable : days.Uncountable mode = number.Uncountable mode)
    (converts : days.convertTo .decimal =
      days.converted .decimal ((Decimal.ofFloating? number).map .decimal))
    (multiplies : mode.forceDecimal = false → ∃ seconds : Value, secondsIn mode days = .ok seconds ∧
      seconds.type = arithmeticType mode days.type ∧
      seconds.IsUnbounded = (((Floating.ofInt 86400).multiply number).isFinite = false)) :
    ConvertsUnless (days.Uncountable mode) (secondsIn mode days >>= next) := by
  by_cases forced : mode.forceDecimal = true
  · have computed : arithmeticType mode days.type = .decimal := if_pos forced
    have isUncountable : number.Uncountable mode = (Decimal.ofFloating? number = none) :=
      if_pos forced
    rw [isUncountable] at uncountable
    cases reads : Decimal.ofFloating? number with
    | none =>
        have fails : secondsIn mode days = .error (days.conversionFailure .decimal) := by
          rw [secondsIn_of_computed computed, converts, reads]
          rfl
        rw [fails]
        exact .of_fails (uncountable ▸ reads) rfl
    | some held =>
        rw [reads] at converts
        refine convertsUnless_of_decimal after ?_ computed converts
        rw [uncountable, reads]
        nofun
  · rw [Bool.not_eq_true] at forced
    obtain ⟨seconds, isSeconds, secondsType, unbounded⟩ := multiplies forced
    have isUncountable : number.Uncountable mode =
        (((Floating.ofInt 86400).multiply number).isFinite = false) :=
      if_neg (by rw [forced]; nofun)
    rw [isSeconds, uncountable, isUncountable, ← unbounded]
    exact after seconds secondsType

/-- Days are counted in seconds unless they are uncountable. -/
theorem convertsUnless_seconds (fraction : days.type.isFractional = true) :
    ConvertsUnless (days.Uncountable mode) (secondsIn mode days >>= next) := by
  cases days with
  | decimal number =>
      exact convertsUnless_of_decimal after id (arithmeticType_decimal mode) rfl
  | real number =>
      refine convertsUnless_of_floating after rfl rfl fun free => ?_
      have computed : arithmeticType mode .real = .real := if_neg (by rw [free]; nofun)
      refine ⟨.real ((Floating.ofInt 86400).multiply number), ?_, computed.symm, rfl⟩
      rw [← convert_daySeconds]
      change (BinaryOp.arith .multiply).evaluate mode (arithmeticType mode .real) true _ _ = _
      rw [computed]
      rfl
  | double number =>
      refine convertsUnless_of_floating after rfl rfl fun free => ?_
      have computed : arithmeticType mode .double = .double := if_neg (by rw [free]; nofun)
      refine ⟨.double ((Floating.ofInt 86400).multiply number), ?_, computed.symm, rfl⟩
      change (BinaryOp.arith .multiply).evaluate mode (arithmeticType mode .double) true _ _ = _
      rw [computed]
      rfl
  | _ => cases fraction

end Seconds

namespace DateFunction

variable {type : DataType} {unit : TimeUnit}

/-- Moving an instant fails only beyond the calendar. -/
theorem computes_addUnits (isTemporal : type.isTemporal = true) (count : Int64)
    (instant : Timestamp) : Computes (addUnits type unit count instant) := by
  unfold addUnits
  split
  · rename_i moved _
    have isConverted : ∃ converted, (Value.timestamp moved).convertTo type = .ok converted :=
      Value.convertTo_of_instant isTemporal
    obtain ⟨converted, converts⟩ := isConverted
    rw [converts]
    exact Spares.ok _
  · exact Spares.error rfl

/-- Moving an instant by a count fails only beyond the calendar. -/
theorem computes_combine (isTemporal : type.isTemporal = true) (first second : Value) :
    Computes (dateAdd.combine type unit first second) := by
  unfold combine
  split
  · exact computes_addUnits isTemporal _ _
  · exact Spares.ok _
  · exact Spares.ok _

/-- An instant is moved by whatever can be counted. -/
theorem convertsUnless_evaluateIn {condition : Prop} {first : Outcome Value} {moment : Value}
    (isTemporal : type.isTemporal = true) (momentTemporal : moment.type.isTemporal = true)
    (counts : ConvertsUnless condition (first >>= fun number => number.convertTo .bigint)) :
    ConvertsUnless condition (dateAdd.evaluateIn type unit first (.ok moment)) := by
  obtain ⟨instant, isInstant⟩ := Value.convertTo_timestamp_of_isTemporal momentTemporal
  have steps : dateAdd.evaluateIn type unit first (.ok moment) =
      (first >>= fun number => number.convertTo .bigint) >>= fun count =>
        dateAdd.combine type unit count (.timestamp instant) := by
    rw [bind_assoc]
    unfold evaluateIn
    refine bind_congr_of_ok fun number _ => bind_congr_of_ok fun count _ => ?_
    change (moment.convertTo .timestamp >>= _) = _
    rw [isInstant]
    rfl
  rw [steps]
  exact counts.bind fun count _ => computes_combine isTemporal _ _

/-- The difference of two instants fails in no other way than by overflowing. -/
theorem computes_evaluateIn_dateDiff {start finish : Value}
    (startTemporal : start.type.isTemporal = true)
    (finishTemporal : finish.type.isTemporal = true) :
    Computes (dateDiff.evaluateIn type unit (.ok start) (.ok finish)) := by
  obtain ⟨startInstant, startIs⟩ := Value.convertTo_timestamp_of_isTemporal startTemporal
  obtain ⟨finishInstant, finishIs⟩ := Value.convertTo_timestamp_of_isTemporal finishTemporal
  have counts : dateDiff.evaluateIn type unit (.ok start) (.ok finish) =
      .ok (.bigint (Int64.ofInt (unit.between startInstant finishInstant))) :=
    evaluateIn_eq_ok.mpr ⟨start, _, finish, _, rfl, startIs, rfl, finishIs, rfl⟩
  rw [counts]
  exact Spares.ok _

end DateFunction

/-- An expression that evaluates to a value of its type other than `NULL`. -/
structure Expr.Holds (context : Context) (expr : Expr) (value : Value) : Prop where
  evaluates : expr.evaluate context = .ok value
  present : value.isNull = false
  typed : value.type = expr.type

namespace Resolution

variable {mode : Mode} {context : Context} {left right days moved units result : Expr}
  {number moment : Value}

/-- An instant that is moved stays temporal. -/
theorem isTemporal_callType {known : Option TimeUnit} {type : DataType}
    (isTemporal : type.isTemporal = true) : (callType .dateAdd known type).isTemporal = true := by
  unfold callType
  cases type with
  | time | timestamp => rfl
  | date =>
      cases known with
      | none => rfl
      | some unit =>
          dsimp only
          split
          · rfl
          · rfl
  | _ => cases isTemporal

/-- What the call that moves an instant is resolved to evaluates as that call. -/
theorem evaluate_of_moved {named : Value} {unit : TimeUnit} (present : named.isNull = false)
    (parses : TimeUnit.parse named.display = .ok unit)
    (calls : call .dateAdd (.literal named) units moved = .ok result) :
    result.evaluate context = DateFunction.dateAdd.evaluateIn
      (callType .dateAdd (some unit) moved.type) unit (units.evaluate context)
      (moved.evaluate context) := by
  have moves : valueOf context ((.ok units : Outcome Expr) >>= fun units =>
      call .dateAdd (.literal named) units moved) = _ := valueOf_moved present parses
  change valueOf context (call .dateAdd (.literal named) units moved) = _ at moves
  rw [calls] at moves
  exact moves

/-- An instant can be moved just as far as the number of units can be counted. -/
theorem convertsUnless_of_moved {condition : Prop} {named : Value} {unit : TimeUnit}
    (present : named.isNull = false) (parses : TimeUnit.parse named.display = .ok unit)
    (calls : call .dateAdd (.literal named) units moved = .ok result)
    (holds : moved.Holds context moment) (isTemporal : moved.type.isTemporal = true)
    (counts : ConvertsUnless condition
      (units.evaluate context >>= fun number => number.convertTo .bigint)) :
    ConvertsUnless condition (result.evaluate context) := by
  rw [evaluate_of_moved present parses calls, holds.evaluates]
  exact DateFunction.convertsUnless_evaluateIn (isTemporal_callType isTemporal)
    (holds.typed ▸ isTemporal) counts

/-- The seconds in a number of days are computed as a product in the type that the mode wants. -/
theorem plan_daySeconds (fraction : days.type.isFractional = true) :
    plan mode (.arith .multiply) .integer days.type =
      .ok (.arith .multiply, arithmeticType mode days.type) := by
  generalize days.type = type at fraction
  cases type <;> first | rfl | cases fraction

section Days

variable (holds : days.Holds context number)

include holds

/-- Whole days can be counted. -/
theorem convertsUnless_of_days (whole : days.type = .integer) :
    ConvertsUnless (number.Uncountable mode)
      (days.evaluate context >>= fun number => number.convertTo .bigint) := by
  have isInteger := holds.typed.trans whole
  rw [holds.evaluates]
  cases number with
  | integer held =>
      have counts : Computes ((Value.integer held).convertTo .bigint) :=
        Value.computes_convertTo_bigint rfl
      exact .of_computes id counts
  | _ => cases isInteger

/-- Whole days can be counted the other way. -/
theorem convertsUnless_of_negatedDays (whole : days.type = .integer)
    (negated : negation days = .ok units) :
    ConvertsUnless (number.Uncountable mode)
      (units.evaluate context >>= fun number => number.convertTo .bigint) := by
  have isInteger := holds.typed.trans whole
  rw [evaluate_of_negation negated, holds.evaluates, whole]
  cases number with
  | integer held =>
      have negates : evaluateNegation (negationType .integer) (.ok (.integer held)) =
          (Value.integer held).negate := rfl
      rw [negates]
      refine .of_computes id (Spares.bind ?_ fun opposite isOpposite => ?_)
      · simp only [Value.negate]
        split
        · exact Spares.ok _
        · exact Spares.error rfl
      · have oppositeType := Value.negate_type isOpposite
        cases opposite <;> cases oppositeType
        exact Value.computes_convertTo_bigint rfl
  | _ => cases isInteger

variable (fraction : days.type.isFractional = true)

include fraction

/-- The seconds in a number of days evaluate to what the mode computes. -/
theorem evaluate_of_daySeconds (scaled : numeric mode .multiply .daySeconds days true = .ok units) :
    units.evaluate context = secondsIn mode number := by
  have evaluates : valueOf context (numeric mode .multiply .daySeconds days true) =
      secondsIn mode number := by
    rw [numeric_daySeconds fraction, operation_of_plain (plain_daySeconds fraction)]
    change valueOf context (plan mode (.arith .multiply) .integer days.type >>= _) = _
    rw [plan_daySeconds fraction, secondsIn, holds.typed, ← holds.evaluates]
    exact valueOf_fold_arith
  rw [scaled] at evaluates
  exact evaluates

/-- Arithmetic on a number with a fraction is done in a type with fractions. -/
theorem isFractional_arithmeticType : (arithmeticType mode number.type).isFractional = true := by
  unfold arithmeticType
  split
  · rfl
  · rw [holds.typed]
    exact fraction

/-- Fractions of days can be counted in seconds, unless they are uncountable. -/
theorem convertsUnless_of_seconds
    (scaled : numeric mode .multiply .daySeconds days true = .ok units) :
    ConvertsUnless (number.Uncountable mode)
      (units.evaluate context >>= fun number => number.convertTo .bigint) := by
  rw [evaluate_of_daySeconds holds fraction scaled]
  refine convertsUnless_seconds (fun seconds secondsType => ?_) (holds.typed ▸ fraction)
  refine Value.convertsUnless_convertTo_bigint ?_
  rw [secondsType]
  exact isFractional_arithmeticType holds fraction

/-- Fractions of days can be counted in seconds the other way, unless they are uncountable. -/
theorem convertsUnless_of_negatedSeconds {scaled : Expr}
    (scales : numeric mode .multiply .daySeconds days true = .ok scaled)
    (negated : negation scaled = .ok units) :
    ConvertsUnless (number.Uncountable mode)
      (units.evaluate context >>= fun number => number.convertTo .bigint) := by
  obtain ⟨_, planned⟩ := type_of_daySeconds fraction scales
  rw [plan_daySeconds fraction, Except.ok.injEq, Prod.mk.injEq, ← holds.typed] at planned
  rw [evaluate_of_negation negated, evaluate_of_daySeconds holds fraction scales, ← planned.2]
  unfold evaluateNegation
  rw [bind_assoc]
  refine convertsUnless_seconds (fun seconds secondsType => ?_) (holds.typed ▸ fraction)
  have secondsFraction : seconds.type.isFractional = true := by
    rw [secondsType]
    exact isFractional_arithmeticType holds fraction
  obtain ⟨opposite, isOpposite, oppositeType, unbounded⟩ :=
    Value.negate_of_isFractional secondsFraction
  have kept : seconds.convertTo (negationType seconds.type) = .ok seconds := by
    have typed := DataType.isUntyped_of_isFractional secondsFraction
    rw [negationType_of_typed typed]
    exact if_pos (.inl rfl)
  rw [← secondsType, kept]
  change ConvertsUnless _ (seconds.negate >>= _)
  rw [isOpposite, ← unbounded]
  exact Value.convertsUnless_convertTo_bigint (oppositeType ▸ secondsFraction)

end Days

section Kept

variable {op : ArithOp} {a b : Value} {type : DataType}

/-- Whether an operation would place bytes on a day of 1970, as if they were a time of day. -/
def AnchorsBytes (op : ArithOp) (left right : DataType) : Prop :=
  op = .plus ∧ (left = .time ∧ right = .varbinary ∨ left = .varbinary ∧ right = .time)

/-- Times of day are added and subtracted without failing. -/
theorem computes_times (op : ArithOp) (additive : op = .plus ∨ op = .minus)
    (leftType : a.type = .time) (rightType : b.type = .time) :
    Computes ((BinaryOp.arith op).evaluate mode .time true (.ok a) (.ok b)) := by
  cases a <;> cases leftType
  cases b <;> cases rightType
  rename_i first second
  have steps : (BinaryOp.arith op).evaluate mode .time true (.ok (.time first))
      (.ok (.time second)) = (Value.time first).arith op (.time second) := rfl
  rw [steps]
  rcases additive with rfl | rfl
  · exact Value.computes_clockAt (first.nanoseconds + second.nanoseconds)
  · exact Value.computes_clockAt (first.nanoseconds - second.nanoseconds)

/-- Instants are added and subtracted, unless the result lies beyond the calendar. -/
theorem computes_instants (op : ArithOp) (additive : op = .plus ∨ op = .minus)
    (leftTemporal : a.type.isTemporal = true) (rightTemporal : b.type.isTemporal = true) :
    Computes ((BinaryOp.arith op).evaluate mode .timestamp true (.ok a) (.ok b)) := by
  obtain ⟨first, firstIs⟩ := Value.convertTo_timestamp_of_isTemporal leftTemporal
  obtain ⟨second, secondIs⟩ := Value.convertTo_timestamp_of_isTemporal rightTemporal
  have steps : (BinaryOp.arith op).evaluate mode .timestamp true (.ok a) (.ok b) =
      (Value.timestamp first).arith op (.timestamp second) := by
    simp only [BinaryOp.evaluate, BinaryOp.convertRight]
    change (a.convertTo .timestamp >>= fun left => b.convertTo .timestamp >>= _) = _
    rw [firstIs, secondIs]
    rfl
  rw [steps]
  rcases additive with rfl | rfl
  · exact Value.computes_orOverflow _
  · exact Value.computes_orOverflow _

/-- Only sums of a time of day with bytes stay operations without being temporal throughout. -/
theorem isTemporal_of_keeps {type leftType rightType : DataType}
    (kept : Keeps op leftType rightType type) (noBytes : ¬ AnchorsBytes op leftType rightType) :
    (op = .plus ∨ op = .minus) ∧ leftType.isTemporal = true ∧ rightType.isTemporal = true := by
  cases kept with
  | sumOfTimes => exact ⟨.inl rfl, rfl, rfl⟩
  | differenceOfTimes => exact ⟨.inr rfl, rfl, rfl⟩
  | anchoredSum ranked _ =>
      refine ⟨.inl rfl, rfl, ?_⟩
      cases rightType <;> first | rfl | cases ranked
      exact absurd ⟨rfl, .inl ⟨rfl, rfl⟩⟩ noBytes
  | anchoredDifference dated => exact ⟨.inr rfl, DataType.isTemporal_of_hasDate dated, rfl⟩

/-- A sum or difference that stays an operation fails only beyond the calendar, unless it places
bytes on a day. -/
theorem computes_of_keeps (kept : Keeps op a.type b.type type)
    (noBytes : ¬ AnchorsBytes op a.type b.type) :
    Computes ((BinaryOp.arith op).evaluate mode type true (.ok a) (.ok b)) := by
  obtain ⟨additive, leftTemporal, rightTemporal⟩ := isTemporal_of_keeps kept noBytes
  generalize leftIs : a.type = leftType at kept leftTemporal
  generalize rightIs : b.type = rightType at kept rightTemporal
  cases kept with
  | sumOfTimes => exact computes_times .plus additive leftIs rightIs
  | differenceOfTimes => exact computes_times .minus additive leftIs rightIs
  | anchoredSum =>
      exact computes_instants .plus additive (leftIs ▸ leftTemporal) (rightIs ▸ rightTemporal)
  | anchoredDifference =>
      exact computes_instants .minus additive (leftIs ▸ leftTemporal) (rightIs ▸ rightTemporal)

/-- A time of day and its factor are used as they are. -/
theorem evaluate_scaled (scaling : op = .multiply ∨ op = .divide) (isTime : a.type = .time)
    (present : b.isNull = false) :
    ∃ clock, (BinaryOp.arith op).evaluate mode .time false (.ok a) (.ok b) =
      Value.scaleTime op clock b := by
  cases a <;> cases isTime
  rename_i clock
  refine ⟨clock, ?_⟩
  have combines : (BinaryOp.arith op).evaluate mode .time false (.ok (.time clock)) (.ok b) =
      if ((Value.time clock).isNull || b.isNull) = true then .ok .null
      else (Value.time clock).arith op b := rfl
  rw [combines, present, if_neg nofun]
  rcases scaling with rfl | rfl
  · rfl
  · rfl

end Kept

/-- Whether an operation counts days that are uncountable. -/
def Miscounts (mode : Mode) (op : ArithOp) (left right : Value) : Prop :=
  (op = .plus ∨ op = .minus) ∧ (left.Uncountable mode ∨ right.Uncountable mode)

/-- What a temporal operation comes to. It fails if it scales a time of day by something that is no
number, or counts days that are uncountable. Otherwise it has a value unless its computation has no
result. -/
structure TemporalOutcome (mode : Mode) (op : ArithOp) (left right : Value)
    (outcome : Outcome Value) : Prop where
  misscaled : op.Misscales left.type right.type →
    ∃ factor, outcome = .error (.invalidOperands op .time factor)
  otherwise : ¬ op.Misscales left.type right.type →
    ConvertsUnless (Miscounts mode op left right) outcome

section Outcome

variable {op : ArithOp} {a b : Value} {outcome : Outcome Value}

theorem not_misscales_of_additive (additive : op = .plus ∨ op = .minus) {left right : DataType} :
    ¬ op.Misscales left right := by
  rcases additive with rfl | rfl
  · nofun
  · nofun

theorem not_uncountable_of_isTemporal (isTemporal : a.type.isTemporal = true) :
    ¬ a.Uncountable mode := by
  cases a <;> first | exact id | cases isTemporal

theorem miscounts_comm : Miscounts mode op a b ↔ Miscounts mode op b a :=
  and_congr_right fun _ => Or.comm

/-- What a sum or a product comes to does not depend on the order of its operands. -/
theorem TemporalOutcome.symm (comes : TemporalOutcome mode op b a outcome)
    (commutes : op = .plus ∨ op = .multiply) : TemporalOutcome mode op a b outcome := by
  have scaled : op.Misscales a.type b.type ↔ op.Misscales b.type a.type := by
    rcases commutes with rfl | rfl
    · exact iff_of_false nofun nofun
    · exact ⟨.symm, .symm⟩
  refine ⟨fun misscaled => comes.misscaled (scaled.mp misscaled), fun number => ?_⟩
  rw [miscounts_comm]
  exact comes.otherwise (mt scaled.mpr number)

/-- A sum or difference comes to a value or a failure to count days. -/
theorem TemporalOutcome.of_additive (additive : op = .plus ∨ op = .minus)
    (converts : ConvertsUnless (a.Uncountable mode ∨ b.Uncountable mode) outcome) :
    TemporalOutcome mode op a b outcome := by
  have counted : Miscounts mode op a b ↔ a.Uncountable mode ∨ b.Uncountable mode :=
    and_iff_right additive
  refine ⟨fun misscaled => absurd misscaled (not_misscales_of_additive additive), fun _ => ?_⟩
  rw [counted]
  exact converts

/-- Days are counted on the left of the instant they are added to. -/
theorem TemporalOutcome.of_daysBefore (additive : op = .plus ∨ op = .minus)
    (momentTemporal : b.type.isTemporal = true)
    (converts : ConvertsUnless (a.Uncountable mode) outcome) :
    TemporalOutcome mode op a b outcome := by
  refine .of_additive additive ?_
  rw [or_iff_left (not_uncountable_of_isTemporal momentTemporal)]
  exact converts

/-- A temporal operand and a number of days come to a value or a failure to count the days. -/
theorem TemporalOutcome.of_daysAfter (additive : op = .plus ∨ op = .minus)
    (momentTemporal : a.type.isTemporal = true)
    (converts : ConvertsUnless (b.Uncountable mode) outcome) :
    TemporalOutcome mode op a b outcome := by
  refine .of_additive additive ?_
  rw [or_iff_right (not_uncountable_of_isTemporal momentTemporal)]
  exact converts

/-- Two temporal operands come to a value, unless the computation has no result. -/
theorem TemporalOutcome.of_computes (additive : op = .plus ∨ op = .minus)
    (leftTemporal : a.type.isTemporal = true) (rightTemporal : b.type.isTemporal = true)
    (computes : Computes outcome) : TemporalOutcome mode op a b outcome :=
  .of_daysBefore additive rightTemporal
    (.of_computes (not_uncountable_of_isTemporal leftTemporal) computes)

/-- A time of day that is scaled comes to a time of day, unless it is scaled by no number. -/
theorem TemporalOutcome.of_scaled {evaluating : Mode} (scaling : op = .multiply ∨ op = .divide)
    (isTime : a.type = .time) (present : b.isNull = false) :
    TemporalOutcome mode op a b
      ((BinaryOp.arith op).evaluate evaluating .time false (.ok a) (.ok b)) := by
  obtain ⟨clock, scales⟩ : ∃ clock, (BinaryOp.arith op).evaluate evaluating .time false (.ok a)
      (.ok b) = Value.scaleTime op clock b := evaluate_scaled scaling isTime present
  rw [scales]
  cases number : b.type.isNumber with
  | false =>
      have misscales : op.Misscales a.type b.type := by
        rw [isTime]
        rcases scaling with rfl | rfl
        · exact .product number
        · exact .quotient number
      exact ⟨fun _ => ⟨b.type, Value.scaleTime_of_noNumber number⟩, fun other =>
        absurd misscales other⟩
  | true =>
      have scaled : ¬ op.Misscales a.type b.type := by
        generalize a.type = leftType at isTime
        generalize b.type = rightType at number
        rintro (noNumber | noNumber | noNumber)
        · rw [number] at noNumber; cases noNumber
        · cases number
        · rw [number] at noNumber; cases noNumber
      refine ⟨fun misscaled => absurd misscaled scaled, fun _ => ?_⟩
      refine .of_computes ?_ (Value.computes_scaleTime number)
      rintro ⟨additive, _⟩
      rcases scaling with rfl | rfl
      · rcases additive with same | same <;> cases same
      · rcases additive with same | same <;> cases same

/-- Every form a temporal operation is rewritten to comes to what the operation does. -/
theorem temporalOutcome_of_rewrites {full : BinaryOp} {converts : Bool}
    (rewrites : Rewrites mode full left right converts result) (isArith : full = .arith op)
    (converting : converts = true) (leftHolds : left.Holds context a)
    (rightHolds : right.Holds context b)
    (isTemporal : left.type.isTemporal = true ∨ right.type.isTemporal = true)
    (noBytes : ¬ AnchorsBytes op left.type right.type) :
    TemporalOutcome mode op a b (result.evaluate context) := by
  induction rewrites generalizing a b with
  | folds plain | settles plain =>
      subst isArith
      exact (not_plain isTemporal plain).elim
  | @keeps _ left right converts type kept =>
      cases isArith
      subst converting
      obtain ⟨additive, leftTemporal, rightTemporal⟩ := isTemporal_of_keeps kept noBytes
      have evaluates : (Expr.binary (.arith op) left right (some type) true).evaluate context =
          (BinaryOp.arith op).evaluate context.mode type true (left.evaluate context)
            (right.evaluate context) := rfl
      rw [evaluates, leftHolds.evaluates, rightHolds.evaluates]
      rw [← leftHolds.typed, ← rightHolds.typed] at kept noBytes
      exact .of_computes additive (leftHolds.typed ▸ leftTemporal)
        (rightHolds.typed ▸ rightTemporal) (computes_of_keeps kept noBytes)
  | @scales _ left right converts scaling isTime =>
      cases isArith
      have evaluates : (Expr.binary (.arith op) left right (some .time) false).evaluate context =
          (BinaryOp.arith op).evaluate context.mode .time false (left.evaluate context)
            (right.evaluate context) := rfl
      rw [evaluates, leftHolds.evaluates, rightHolds.evaluates]
      exact .of_scaled scaling (leftHolds.typed.trans isTime) rightHolds.present
  | swaps reversed _ ih =>
      cases isArith
      have commutes : op = .plus ∨ op = .multiply := by
        rcases reversed with ⟨isPlus, _⟩ | ⟨isProduct, _⟩
        · exact .inl isPlus
        · exact .inr isProduct
      refine (ih rfl converting rightHolds leftHolds isTemporal.symm ?_).symm commutes
      rintro ⟨isPlus, anchors⟩
      exact noBytes ⟨isPlus, anchors.symm.imp And.symm And.symm⟩
  | addsDays days rightTemporal calls =>
      cases isArith
      refine .of_daysBefore (.inl rfl) (rightHolds.typed ▸ rightTemporal) ?_
      exact convertsUnless_of_moved rfl parse_day calls rightHolds rightTemporal
        (convertsUnless_of_days leftHolds days)
  | addsSeconds fraction rightTemporal scaled calls =>
      cases isArith
      refine .of_daysBefore (.inl rfl) (rightHolds.typed ▸ rightTemporal) ?_
      exact convertsUnless_of_moved rfl parse_second calls rightHolds rightTemporal
        (convertsUnless_of_seconds leftHolds fraction scaled)
  | subtractsDays dated whole negated calls =>
      cases isArith
      have leftTemporal := DataType.isTemporal_of_hasDate dated
      refine .of_daysAfter (.inr rfl) (leftHolds.typed ▸ leftTemporal) ?_
      exact convertsUnless_of_moved rfl parse_day calls leftHolds leftTemporal
        (convertsUnless_of_negatedDays rightHolds whole negated)
  | subtractsSeconds dated fraction scales negated calls =>
      cases isArith
      have leftTemporal := DataType.isTemporal_of_hasDate dated
      refine .of_daysAfter (.inr rfl) (leftHolds.typed ▸ leftTemporal) ?_
      exact convertsUnless_of_moved rfl parse_second calls leftHolds leftTemporal
        (convertsUnless_of_negatedSeconds rightHolds fraction scales negated)
  | countsDays leftDated rightDated calls =>
      cases isArith
      have leftTemporal := leftHolds.typed ▸ DataType.isTemporal_of_hasDate leftDated
      have rightTemporal := rightHolds.typed ▸ DataType.isTemporal_of_hasDate rightDated
      refine .of_computes (.inr rfl) leftTemporal rightTemporal ?_
      rw [evaluate_of_call (constantUnit_literal rfl parse_day) calls, leftHolds.evaluates,
        rightHolds.evaluates]
      exact DateFunction.computes_evaluateIn_dateDiff rightTemporal leftTemporal

end Outcome

end Resolution

/-- Whatever temporal operation on two columns is resolved, under any mode, comes to a value on a
row of values of their types, unless it has no result, scales a time of day by something that is
no number, or counts uncountable days. Sums with bytes are left aside. -/
theorem temporalOutcome_of_columns {mode : Mode} {context : Context} {op : ArithOp}
    {left right : ColumnRef} {a b : Value} {result : Expr}
    (leftHolds : (Expr.column left).Holds context a)
    (rightHolds : (Expr.column right).Holds context b)
    (isTemporal : left.type.isTemporal = true ∨ right.type.isTemporal = true)
    (noBytes : ¬ AnchorsBytes op left.type right.type)
    (resolves : (Expr.arith op (.column left) (.column right)).resolve mode = .ok result) :
    TemporalOutcome mode op a b (result.evaluate context) := by
  have operands : (Expr.arith op (.column left) (.column right)).resolve mode =
      operation mode (.arith op) (.column left) (.column right) true :=
    Expr.resolve_arith_of_operands (Expr.resolve_column leftHolds.evaluates)
      (Expr.resolve_column rightHolds.evaluates)
  rw [operands] at resolves
  exact temporalOutcome_of_rewrites (operation_rewrites resolves) rfl rfl leftHolds rightHolds
    isTemporal noBytes

/-- Adding a number of days to the first day of 1970 computes a day or is out of range. -/
theorem computes_day_after_epoch :
    let date : ColumnRef := ⟨none, "D", some ⟨"T", ⟨0, .date⟩, 0⟩, true⟩
    let days : ColumnRef := ⟨none, "N", some ⟨"T", ⟨1, .integer⟩, 0⟩, true⟩
    let context : Context := ⟨.regular, [.date .epoch, .integer 2147483647], []⟩
    ∃ result, (Expr.arith .plus (.column date) (.column days)).resolve .regular = .ok result ∧
      Computes (result.evaluate context) := by
  intro date days context
  have dateHolds : (Expr.column date).Holds context (.date .epoch) := ⟨rfl, rfl, rfl⟩
  have daysHolds : (Expr.column days).Holds context (.integer 2147483647) := ⟨rfl, rfl, rfl⟩
  have noBytes : ¬ AnchorsBytes .plus date.type days.type := by
    rintro ⟨_, ⟨isTime, _⟩ | ⟨isBytes, _⟩⟩
    · cases isTime
    · cases isBytes
  obtain ⟨result, resolves⟩ :
      ∃ result, (Expr.arith .plus (.column date) (.column days)).resolve .regular = .ok result :=
    ⟨_, rfl⟩
  have comes := temporalOutcome_of_columns dateHolds daysHolds (.inl rfl) noBytes resolves
  refine ⟨result, resolves, (comes.otherwise nofun).computes ?_⟩
  rintro ⟨_, uncountable | uncountable⟩
  · exact uncountable
  · exact uncountable

/-- A time of day that is scaled by a text is resolved, and then fails for the types of its
operands. -/
theorem not_computes_clock_times_text :
    ¬ ∀ (context : Context) (op : ArithOp) (left right : ColumnRef) (a b : Value) (result : Expr),
      (Expr.column left).Holds context a → (Expr.column right).Holds context b →
      ¬ a.IsUnbounded → ¬ b.IsUnbounded →
      left.type.isTemporal = true ∨ right.type.isTemporal = true →
      (Expr.arith op (.column left) (.column right)).resolve context.mode = .ok result →
      Computes (result.evaluate context) := by
  intro computes
  let clock : ColumnRef := ⟨none, "A", some ⟨"T", ⟨0, .time⟩, 0⟩, true⟩
  let text : ColumnRef := ⟨none, "B", some ⟨"T", ⟨1, .varchar⟩, 0⟩, true⟩
  let opens : TimeOfDay := ⟨36000, 0, by decide, by decide, by decide⟩
  let context : Context := ⟨.regular, [.time opens, .varchar "2"], []⟩
  have misscales := computes context .multiply clock text (.time opens) (.varchar "2") _
    ⟨rfl, rfl, rfl⟩ ⟨rfl, rfl, rfl⟩ id id (.inl rfl) rfl
  cases misscales (.invalidOperands .multiply .time .varchar) rfl

end SqlScalar
