import SqlScalar.Proofs.PresentValues

/-! # Rules for days

How a number of days is added to a date or a timestamp and subtracted from it, and how two dates
are subtracted: by a sum or a difference of dates, which counts in days if the number is an
integer and in seconds if it has a fraction.
-/

namespace SqlScalar

open Calendar Resolution

theorem DataType.isTemporal_of_hasDate {type : DataType} (dated : type.hasDate = true) :
    type.isTemporal = true := by
  cases type <;> first | rfl | cases dated

theorem DataType.countable_of_exact {type : DataType} (exact : type = .integer ∨ type = .decimal) :
    type = .integer ∨ type.isFractional = true := by
  apply exact.imp_right
  rintro rfl
  rfl

theorem DataType.isUntyped_of_exact {type : DataType} (exact : type = .integer ∨ type = .decimal) :
    type.isUntyped = false := by
  rcases exact with rfl | rfl
  · rfl
  · rfl

namespace Resolution

/-- The unit in which a number of days is added to an instant. -/
def dayUnit (days : DataType) : TimeUnit :=
  if days = .integer then .day else .second

/-- A number of days, in the unit in which it is added to an instant. -/
def dayCount (mode : Mode) (days : Expr) : Outcome Expr :=
  if days.type = .integer then .ok days else numeric mode .multiply .daySeconds days true

variable {context : Context} {moved days : Expr} {converts : Bool}

section Rules

variable (dated : moved.type.hasDate = true)
  (countable : days.type = .integer ∨ days.type.isFractional = true)

include dated countable

theorem preferred_date : DataType.preferred moved.type days.type ≠ days.type := by
  generalize moved.type = movedType at dated
  generalize days.type = daysType at countable
  cases movedType <;> cases dated <;> cases daysType <;>
    first | decide | rcases countable with whole | fraction
  all_goals first | cases whole | cases fraction

/-- Days are added to a date on their left by a sum of dates. -/
theorem valueOf_laterDay :
    valueOf context (operation context.mode (.arith .plus) moved days converts) =
      DateFunction.dateAdd.evaluateIn (callType .dateAdd (some (dayUnit days.type)) moved.type)
        (dayUnit days.type) (valueOf context (dayCount context.mode days))
        (moved.evaluate context) := by
  have reversed := preferred_date dated countable
  rw [operation_of_temporal (.inl (DataType.isTemporal_of_hasDate dated))]
  simp only [temporal, temporalSum, reversed, ↓reduceIte, orderedSum, dayUnit, dayCount]
  by_cases whole : days.type = .integer
  · simp only [if_pos whole]
    have adds : valueOf context ((.ok days : Outcome Expr) >>= fun units =>
        call .dateAdd (.literal (.varchar "DAY")) units moved) = _ := valueOf_moved rfl parse_day
    exact adds
  · have fraction := countable.resolve_left whole
    simp only [if_neg whole, if_pos fraction]
    exact valueOf_moved rfl parse_second

/-- Days are subtracted from a date by a sum of dates with the opposite number. -/
theorem valueOf_earlierDay :
    valueOf context (operation context.mode (.arith .minus) moved days converts) =
      DateFunction.dateAdd.evaluateIn (callType .dateAdd (some (dayUnit days.type)) moved.type)
        (dayUnit days.type) (valueOf context (dayCount context.mode days >>= negation))
        (moved.evaluate context) := by
  rw [operation_of_temporal (.inl (DataType.isTemporal_of_hasDate dated))]
  simp only [temporal, temporalDifference, dated, ↓reduceIte, dayUnit, dayCount]
  by_cases whole : days.type = .integer
  · simp only [if_pos whole]
    exact valueOf_moved rfl parse_day
  · have fraction := countable.resolve_left whole
    simp only [if_neg whole, if_pos fraction]
    rw [← bind_assoc]
    exact valueOf_moved rfl parse_second

end Rules

/-- A difference of two dates is resolved to a call that counts the days between them. -/
theorem operation_daysBetween {mode : Mode} {start : Expr} (dated : moved.type.hasDate = true)
    (startDated : start.type.hasDate = true) :
    operation mode (.arith .minus) moved start converts =
      call .dateDiff (.string "DAY") start moved := by
  have notWhole : start.type ≠ .integer := by
    intro whole
    rw [whole] at startDated
    cases startDated
  have noFraction : ¬ start.type.isFractional = true := by
    intro fraction
    generalize start.type = startType at startDated fraction
    cases startType <;> cases startDated <;> cases fraction
  have noTime : start.type ≠ .time := by
    intro isTime
    rw [isTime] at startDated
    cases startDated
  rw [operation_of_temporal (.inl (DataType.isTemporal_of_hasDate dated))]
  simp only [temporal, temporalDifference, dated, notWhole, noFraction, noTime, startDated,
    ↓reduceIte]
  rfl

/-- The difference of two dates counts the days between them. -/
theorem valueOf_daysBetween {start : Expr} (dated : moved.type.hasDate = true)
    (startDated : start.type.hasDate = true) :
    valueOf context (operation context.mode (.arith .minus) moved start converts) =
      DateFunction.dateDiff.evaluateIn .bigint .day (start.evaluate context)
        (moved.evaluate context) := by
  rw [operation_daysBetween dated startDated]
  exact valueOf_call (constantUnit_literal rfl parse_day)

section Count

variable {number : Value} (daysExact : days.Exact context)
  (counted : days.type = .integer ∨ days.type = .decimal)

include daysExact counted

/-- An integer or a decimal number of days is counted by a number of its own type. -/
theorem exact_dayCount {units : Expr} (counts : dayCount context.mode days = .ok units) :
    units.Exact context ∧ units.type = days.type := by
  unfold dayCount at counts
  by_cases whole : days.type = .integer
  · rw [if_pos whole] at counts
    cases counts
    exact ⟨daysExact, rfl⟩
  · rw [if_neg whole] at counts
    have isDecimal := counted.resolve_left whole
    have fraction : days.type.isFractional = true := by
      rw [isDecimal]
      rfl
    refine ⟨exact_daySeconds daysExact fraction counts, ?_⟩
    obtain ⟨settled, planned⟩ := type_of_daySeconds fraction counts
    rw [isDecimal] at planned ⊢
    change Except.ok (_, arithmeticType context.mode .decimal) = _ at planned
    rw [Except.ok.injEq, Prod.mk.injEq] at planned
    rw [← planned.2]
    unfold arithmeticType
    split
    · rfl
    · rfl

/-- A number of days in its unit is negated like the number it is. -/
theorem negate_dayCount (counts : valueOf context (dayCount context.mode days) = .ok number) :
    number.isNull = false ∧ number.type = days.type ∧
      valueOf context (dayCount context.mode days >>= negation) = number.negate := by
  obtain ⟨units, unitsAre, evaluates⟩ := bind_eq_ok.mp counts
  obtain ⟨unitsExact, unitsType⟩ := exact_dayCount daysExact counted unitsAre
  obtain ⟨present, numberType⟩ := unitsExact number evaluates
  refine ⟨present, numberType.trans unitsType, ?_⟩
  rw [unitsAre]
  change valueOf context (negation units) = _
  rw [valueOf_negation, evaluates, ← numberType,
    negationType_of_typed (Value.isUntyped_type present)]
  have unchanged : number.convertTo number.type = .ok number := if_pos (.inl rfl)
  simp only [evaluateNegation]
  change (number.convertTo number.type >>= Value.negate) = _
  rw [unchanged]
  rfl

end Count

end Resolution

end SqlScalar
