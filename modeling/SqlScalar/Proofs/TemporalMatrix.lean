import SqlScalar.Proofs.DatedValues
import SqlScalar.Proofs.OperandOrder
import SqlScalar.Proofs.TemporalFailures

/-! # Sums and differences of instants

A time of day, a date or a timestamp has a sum or a difference with operands of some types only. A
difference is resolved by the types of both operands. A sum is resolved by the type of the first
one once they are in the order of preference. That the other one is an instant follows from the
order, unless it is preferred to all instants: bytes next to a time of day are taken for one.
-/

namespace SqlScalar

open Calendar Resolution

/-- The types of the numbers that count days. -/
def DataType.countsDays : DataType → Bool
  | integer | decimal | real | double => true
  | _ => false

/-- Whether operands of two types, at least one of them temporal, have a sum or a difference. -/
def ArithOp.combines : ArithOp → DataType → DataType → Bool
  | plus, left, right =>
      left.countsDays && right.isTemporal || left.isTemporal && right.countsDays ||
        left == .time && right.isTemporal || left.isTemporal && right == .time
  | minus, left, right =>
      left.hasDate && (right.countsDays || right.isTemporal) || left == .time && right == .time
  | _, _, _ => false

namespace DataType

variable {left right type : DataType}

theorem countsDays_iff : type.countsDays = true ↔ type = .integer ∨ type.isFractional = true := by
  cases type <;> simp only [countsDays, isFractional, reduceCtorEq, or_self, or_true, or_false,
    Bool.false_eq_true]

theorem countsDays_eq_false_iff :
    type.countsDays = false ↔ type ≠ .integer ∧ ¬ type.isFractional = true := by
  rw [← Bool.not_eq_true, countsDays_iff, not_or]

theorem ne_integer_of_isFractional (fraction : type.isFractional = true) : type ≠ .integer := by
  rintro rfl
  cases fraction

theorem countsDays_of_isTemporal (isTemporal : type.isTemporal = true) :
    type.countsDays = false := by
  cases type <;> first | rfl | cases isTemporal

theorem countsDays_of_hasDate (dated : type.hasDate = true) : type.countsDays = false :=
  countsDays_of_isTemporal (isTemporal_of_hasDate dated)

/-- Of two types one is preferred, in either order. -/
theorem preferred_eq_left (reversed : preferred left right ≠ right) :
    preferred right left = left := by
  rw [preferred_comm]
  unfold preferred at reversed ⊢
  split at reversed
  · rename_i below
    exact if_pos below
  · exact absurd rfl reversed

end DataType

namespace ArithOp

variable {left right : DataType}

theorem combines_plus_comm (left right : DataType) :
    plus.combines left right = plus.combines right left := by
  cases left <;> cases right <;> rfl

/-- If the operands of a sum are in order, the first one tells whether there is a sum. -/
theorem combines_of_ordered (isTemporal : left.isTemporal = true ∨ right.isTemporal = true)
    (ordered : DataType.preferred left right = right) :
    right.countsDays = false ∧ (plus.combines left right = true ∨ AnchorsBytes .plus left right ↔
      left.countsDays = true ∨ left = .time) := by
  unfold AnchorsBytes
  cases left <;> cases right <;> revert isTemporal ordered <;> decide

theorem combines_of_hasDate (dated : left.hasDate = true) :
    minus.combines left right = (right.countsDays || right.isTemporal) := by
  cases left <;> cases dated <;> cases right <;> rfl

/-- From a time of day one can subtract another one, and nothing else from a type without a date. -/
theorem combines_of_not_hasDate (undated : left.hasDate = false) :
    minus.combines left right = true ↔ left = .time ∧ right = .time := by
  cases left <;> cases undated <;> cases right <;> decide

end ArithOp

namespace Resolution

/-- A constant number of days, in the unit in which it is added to an instant. -/
def constantCount (mode : Mode) (days : Value) : Outcome Value :=
  if days.type = .integer then .ok days else secondsIn mode days

/-- The number of units by which a constant number of days moves an instant, the opposite one in a
difference. -/
def constantUnits (mode : Mode) (op : ArithOp) (days : Value) : Outcome Value :=
  if op = .minus then constantCount mode days >>= Value.negate else constantCount mode days

/-- Whether a constant number of days can be counted, and a constant instant moved by it. -/
def DaysFold (mode : Mode) (op : ArithOp) (days moved : Expr) : Prop :=
  ∀ number, days = .literal number → ∃ units, constantUnits mode op number = .ok units ∧
    ∀ moment, moved = .literal moment → ∃ value,
      DateFunction.dateAdd.evaluateIn (callType .dateAdd (some (dayUnit days.type)) moved.type)
        (dayUnit days.type) (.ok units) (.ok moment) = .ok value

/-- Whether no failure comes from folding the constants of a sum or a difference. -/
structure FoldsQuietly (mode : Mode) (op : ArithOp) (left right : Expr) : Prop where
  leftDays : left.type.countsDays = true → DaysFold mode op left right
  rightDays : right.type.countsDays = true → DaysFold mode op right left

/-- The number of units by which a number of days moves an instant. -/
def unitCount (mode : Mode) (op : ArithOp) (days : Expr) : Outcome Expr :=
  if op = .minus then dayCount mode days >>= negation else dayCount mode days

/-- The word for the unit in which a number of days is added to an instant. -/
def dayWord (days : DataType) : String :=
  if days = .integer then "DAY" else "SECOND"

/-- The sum of dates that moves an instant by a number of days. -/
def movedByDays (mode : Mode) (op : ArithOp) (days moved : Expr) : Outcome Expr :=
  unitCount mode op days >>= fun units => call .dateAdd (.string (dayWord days.type)) units moved

/-- What becomes of a sum or a difference one of whose operands is temporal. If operands of these
types have none, the types are reported in the order the operands have been put in. -/
structure FollowsMatrix (mode : Mode) (op : ArithOp) (left right : Expr) (outcome : Outcome Expr) :
    Prop where
  resolves : (∃ result, outcome = .ok result) ↔
    (op.combines left.type right.type = true ∨ AnchorsBytes op left.type right.type) ∧
      FoldsQuietly mode op left right
  unsupported (apart : op.combines left.type right.type = false)
    (noBytes : ¬ AnchorsBytes op left.type right.type)
    (ordered : ¬ Reversed op left.type right.type) :
    outcome = .error (.unsupported left.type op right.type)
  unsupportedReversed (apart : op.combines left.type right.type = false)
    (noBytes : ¬ AnchorsBytes op left.type right.type)
    (reversed : Reversed op left.type right.type) :
    outcome = .error (.unsupported right.type op left.type)

variable {mode : Mode} {op : ArithOp} {left right days moved : Expr} {converts : Bool}

section Calls

variable {function : DateFunction} {first second : Expr} {named : Value} {unit : TimeUnit}

/-- A call with a valid unit resolves unless it is folded and has no value. -/
theorem exists_call_iff (present : named.isNull = false)
    (parses : TimeUnit.parse named.display = .ok unit) :
    (∃ result, call function (.literal named) first second = .ok result) ↔
      ∀ a b, first = .literal a → second = .literal b → ∃ value,
        function.evaluateIn (callType function (some unit) second.type) unit (.ok a) (.ok b) =
          .ok value := by
  have known := constantUnit_literal present parses
  constructor
  · rintro ⟨result, calls⟩ a b rfl rfl
    obtain ⟨_, knownIs, ⟨_, _, _, value, unitIs, firstIs, secondIs, evaluates, _⟩ | ⟨varying, _⟩⟩ :=
      call_eq_ok calls
    · rw [known] at knownIs
      cases knownIs
      cases unitIs
      cases firstIs
      cases secondIs
      rw [DateFunction.evaluate_of_unit present parses] at evaluates
      exact ⟨value, evaluates⟩
    · cases varying
  · intro folds
    cases varying : foldable first second with
    | false => exact ⟨_, call_of_not_closed known varying⟩
    | true =>
        obtain ⟨a, b, rfl, rfl⟩ := eq_literals_of_foldable varying
        obtain ⟨value, evaluates⟩ := folds a b rfl rfl
        rw [← DateFunction.evaluate_of_unit present parses] at evaluates
        exact ⟨.literal value,
          bind_eq_ok.mpr ⟨some unit, known, bind_eq_ok.mpr ⟨value, evaluates, rfl⟩⟩⟩

/-- A difference of dates always resolves. -/
theorem exists_call_dateDiff (firstDated : first.type.hasDate = true)
    (secondDated : second.type.hasDate = true) :
    ∃ result, call .dateDiff (.string "DAY") first second = .ok result := by
  refine (exists_call_iff rfl parse_day).mpr ?_
  rintro a b rfl rfl
  obtain ⟨_, converts⟩ :=
    Value.convertTo_timestamp_of_isTemporal (DataType.isTemporal_of_hasDate firstDated)
  obtain ⟨_, secondConverts⟩ :=
    Value.convertTo_timestamp_of_isTemporal (DataType.isTemporal_of_hasDate secondDated)
  exact ⟨_, DateFunction.evaluateIn_dateDiff ⟨firstDated, converts⟩ ⟨secondDated, secondConverts⟩⟩

end Calls

theorem parse_dayWord (type : DataType) :
    TimeUnit.parse (Value.varchar (dayWord type)).display = .ok (dayUnit type) := by
  unfold dayWord dayUnit
  split
  · exact parse_day
  · exact parse_second

section Constants

variable {number : Value} (countable : number.type = .integer ∨ number.type.isFractional = true)

/-- The negation of a constant is computed at once. -/
theorem negation_literal (number : Value) :
    negation (.literal number) = number.negate >>= fun opposite => .ok (.literal opposite) := by
  have unchanged : number.convertTo number.type = .ok number := if_pos (.inl rfl)
  have typed : negationType number.type = number.type := by
    cases number <;> rfl
  simp only [negation, Expr.type, typed, evaluateNegation]
  change (number.convertTo number.type >>= Value.negate) >>= _ = _
  rw [unchanged]
  rfl

/-- The seconds in a constant number of days are computed at once. -/
theorem numeric_daySeconds_literal (fraction : number.type.isFractional = true) :
    numeric mode .multiply .daySeconds (.literal number) true =
      secondsIn mode number >>= fun seconds => .ok (.literal seconds) := by
  have fractional : (Expr.literal number).type.isFractional = true := fraction
  have planned : plan mode (.arith .multiply) Expr.daySeconds.type (Expr.literal number).type = _ :=
    plan_daySeconds fractional
  rw [numeric_daySeconds fractional, operation_of_plain (plain_daySeconds fractional), planned]
  rfl

include countable

/-- A constant number of days is counted at once. -/
theorem dayCount_literal :
    dayCount mode (.literal number) =
      constantCount mode number >>= fun units => .ok (.literal units) := by
  unfold dayCount constantCount
  by_cases whole : number.type = .integer
  · have literalWhole : (Expr.literal number).type = .integer := whole
    rw [if_pos literalWhole, if_pos whole]
    rfl
  · have literalOther : ¬ (Expr.literal number).type = .integer := whole
    rw [if_neg literalOther, if_neg whole]
    exact numeric_daySeconds_literal (countable.resolve_left whole)

/-- A constant number of days is folded to a constant number of units. -/
theorem unitCount_literal :
    unitCount mode op (.literal number) =
      constantUnits mode op number >>= fun units => .ok (.literal units) := by
  unfold unitCount constantUnits
  rw [dayCount_literal countable]
  split
  · rw [bind_assoc, bind_assoc]
    exact bind_congr_of_ok fun units _ => negation_literal units
  · rfl

end Constants

section Days

variable (countable : days.type = .integer ∨ days.type.isFractional = true)

include countable

/-- A number of days that is no constant can always be counted later. -/
theorem exists_dayCount (varying : days.isConstant = false) :
    ∃ units, dayCount mode days = .ok units ∧ units.isConstant = false := by
  unfold dayCount
  by_cases whole : days.type = .integer
  · exact ⟨days, if_pos whole, varying⟩
  · have fraction := countable.resolve_left whole
    have unfolded : foldable Expr.daySeconds days = false := varying
    have planned : plan mode (.arith .multiply) Expr.daySeconds.type days.type = _ :=
      plan_daySeconds fraction
    rw [if_neg whole, numeric_daySeconds fraction, operation_of_plain (plain_daySeconds fraction),
      planned]
    exact ⟨_, fold_of_not_foldable unfolded, rfl⟩

/-- A number of days that varies is counted by an expression that does. -/
theorem exists_unitCount (varying : days.isConstant = false) :
    ∃ units, unitCount mode op days = .ok units ∧ units.isConstant = false := by
  obtain ⟨units, unitsAre, unitsVary⟩ :
      ∃ units, dayCount mode days = .ok units ∧ units.isConstant = false :=
    exists_dayCount countable varying
  unfold unitCount
  rw [unitsAre]
  split
  · exact ⟨_, negation_of_varying unitsVary, rfl⟩
  · exact ⟨units, rfl, unitsVary⟩

/-- An instant is moved by days unless a constant number of them cannot be counted or a constant
instant not be moved. -/
theorem exists_movedByDays_iff :
    (∃ result, movedByDays mode op days moved = .ok result) ↔ DaysFold mode op days moved := by
  have calls (units : Expr) :
      (∃ result, call .dateAdd (.string (dayWord days.type)) units moved = .ok result) ↔ _ :=
    exists_call_iff rfl (parse_dayWord days.type)
  cases varying : days.isConstant with
  | true =>
      obtain ⟨number, rfl⟩ := Expr.eq_literal_of_isConstant varying
      -- The number of units is folded before the call is, and may have no value by itself.
      constructor
      · rintro ⟨result, resolves⟩ _ same
        cases same
        obtain ⟨_, unitsAre, moves⟩ := bind_eq_ok.mp resolves
        rw [unitCount_literal countable] at unitsAre
        obtain ⟨units, counted, same⟩ := bind_eq_ok.mp unitsAre
        cases same
        have folds := (calls (.literal units)).mp ⟨result, moves⟩
        exact ⟨units, counted, fun moment => folds units moment rfl⟩
      · intro folds
        obtain ⟨units, counted, evaluates⟩ := folds number rfl
        have unitsAre : unitCount mode op (.literal number) = .ok (.literal units) := by
          rw [unitCount_literal countable, counted]
          rfl
        obtain ⟨result, moves⟩ := (calls (.literal units)).mpr fun a moment same => by
          cases same
          exact evaluates moment
        exact ⟨result, bind_eq_ok.mpr ⟨_, unitsAre, moves⟩⟩
  | false =>
      obtain ⟨units, unitsAre, unitsVary⟩ :
          ∃ units, unitCount mode op days = .ok units ∧ units.isConstant = false :=
        exists_unitCount countable varying
      constructor
      · intro _ number same
        rw [same] at varying
        cases varying
      · intro _
        obtain ⟨result, moves⟩ := (calls units).mpr fun a moment same => by
          rw [same] at unitsVary
          cases unitsVary
        exact ⟨result, bind_eq_ok.mpr ⟨units, unitsAre, moves⟩⟩

end Days

/-- The operands of a sum change places unless the right one is of the preferred type. -/
theorem reversed_plus_iff {leftType rightType : DataType} :
    Reversed .plus leftType rightType ↔ DataType.preferred leftType rightType ≠ rightType := by
  constructor
  · rintro (⟨_, unordered⟩ | ⟨isProduct, _⟩)
    · exact unordered
    · cases isProduct
  · intro unordered
    exact .inl ⟨rfl, unordered⟩

theorem anchorsBytes_comm {leftType rightType : DataType} :
    AnchorsBytes op leftType rightType ↔ AnchorsBytes op rightType leftType :=
  and_congr_right fun _ => Or.comm.trans (or_congr and_comm and_comm)

section Folding

theorem foldsQuietly_comm : FoldsQuietly mode op left right ↔ FoldsQuietly mode op right left :=
  ⟨fun quiet => ⟨quiet.rightDays, quiet.leftDays⟩, fun quiet => ⟨quiet.rightDays, quiet.leftDays⟩⟩

variable (noLeftDays : left.type.countsDays = false)

include noLeftDays

theorem foldsQuietly_of_noDays (noRightDays : right.type.countsDays = false) :
    FoldsQuietly mode op left right where
  leftDays days := by rw [noLeftDays] at days; cases days
  rightDays days := by rw [noRightDays] at days; cases days

theorem foldsQuietly_iff_daysFold (days : right.type.countsDays = true) :
    FoldsQuietly mode op left right ↔ DaysFold mode op right left :=
  ⟨fun quiet => quiet.rightDays days, fun folds =>
    ⟨fun leftDays => absurd leftDays (by rw [noLeftDays]; nofun), fun _ => folds⟩⟩

end Folding

namespace FollowsMatrix

variable {outcome : Outcome Expr}

/-- An operation that is defined follows the matrix if its constants fold quietly. -/
theorem of_resolves
    (defined : op.combines left.type right.type = true ∨ AnchorsBytes op left.type right.type)
    (folds : (∃ result, outcome = .ok result) ↔ FoldsQuietly mode op left right) :
    FollowsMatrix mode op left right outcome where
  resolves := folds.trans (and_iff_right defined).symm
  unsupported apart noBytes := by
    rw [apart] at defined
    exact absurd (defined.resolve_left nofun) noBytes
  unsupportedReversed apart noBytes := by
    rw [apart] at defined
    exact absurd (defined.resolve_left nofun) noBytes

/-- An operation that is not defined follows the matrix if its types are reported. -/
theorem of_fails
    (undefined : ¬ (op.combines left.type right.type = true ∨
      AnchorsBytes op left.type right.type))
    (ordered : ¬ Reversed op left.type right.type)
    (fails : outcome = .error (.unsupported left.type op right.type)) :
    FollowsMatrix mode op left right outcome where
  resolves := by
    refine iff_of_false ?_ fun defined => undefined defined.1
    rintro ⟨_, succeeds⟩
    rw [fails] at succeeds
    cases succeeds
  unsupported _ _ _ := fails
  unsupportedReversed _ _ reversed := absurd reversed ordered

/-- A sum of operands in the wrong order follows the matrix like the ordered one. -/
theorem of_reversed (reversed : DataType.preferred left.type right.type ≠ right.type)
    (follows : FollowsMatrix mode .plus right left outcome) :
    FollowsMatrix mode .plus left right outcome where
  resolves := by
    rw [ArithOp.combines_plus_comm, anchorsBytes_comm, foldsQuietly_comm]
    exact follows.resolves
  unsupported _ _ ordered := absurd (reversed_plus_iff.mpr reversed) ordered
  unsupportedReversed apart noBytes _ := by
    rw [ArithOp.combines_plus_comm] at apart
    refine follows.unsupported apart (mt anchorsBytes_comm.mp noBytes) ?_
    rw [reversed_plus_iff]
    exact not_not_intro (DataType.preferred_eq_left reversed)

end FollowsMatrix

section Sum

/-- Days and an instant make the instant that is moved. -/
theorem orderedSum_of_days (days : left.type.countsDays = true) :
    orderedSum mode left right converts = movedByDays mode .plus left right := by
  unfold orderedSum movedByDays unitCount dayCount dayWord
  rcases DataType.countsDays_iff.mp days with whole | fraction
  · simp only [if_pos whole]
    rfl
  · simp only [if_neg (DataType.ne_integer_of_isFractional fraction), if_pos fraction]
    rfl

/-- A time of day can be added to anything that is preferred to it. -/
theorem orderedSum_of_time (isTime : left.type = .time) :
    ∃ result, orderedSum mode left right converts = .ok result := by
  unfold orderedSum
  simp only [isTime, DataType.isFractional, reduceCtorEq, Bool.false_eq_true, ↓reduceIte]
  split
  · exact ⟨_, rfl⟩
  · exact ⟨_, rfl⟩

theorem orderedSum_of_other (noDays : left.type.countsDays = false) (noTime : left.type ≠ .time) :
    orderedSum mode left right converts = .error (.unsupported left.type .plus right.type) := by
  obtain ⟨noWhole, noFraction⟩ := DataType.countsDays_eq_false_iff.mp noDays
  unfold orderedSum
  simp only [if_neg noWhole, if_neg noFraction, if_neg noTime]
  rfl

/-- A sum in order follows the matrix. -/
theorem followsMatrix_orderedSum
    (isTemporal : left.type.isTemporal = true ∨ right.type.isTemporal = true)
    (ordered : DataType.preferred left.type right.type = right.type) :
    FollowsMatrix mode .plus left right (orderedSum mode left right converts) := by
  obtain ⟨noRightDays, defined⟩ := ArithOp.combines_of_ordered isTemporal ordered
  cases days : left.type.countsDays with
  | true =>
      refine .of_resolves (defined.mpr (.inl days)) ?_
      rw [orderedSum_of_days days, exists_movedByDays_iff (DataType.countsDays_iff.mp days),
        foldsQuietly_comm, foldsQuietly_iff_daysFold noRightDays days]
  | false =>
      by_cases isTime : left.type = .time
      · exact .of_resolves (defined.mpr (.inr isTime))
          (iff_of_true (orderedSum_of_time isTime) (foldsQuietly_of_noDays days noRightDays))
      · refine .of_fails ?_ ?_ (orderedSum_of_other days isTime)
        · rw [defined, days]
          rintro (days | same)
          · cases days
          · exact isTime same
        · rw [reversed_plus_iff]
          exact not_not_intro ordered

/-- A sum with a temporal operand follows the matrix. -/
theorem followsMatrix_temporalSum
    (isTemporal : left.type.isTemporal = true ∨ right.type.isTemporal = true) :
    FollowsMatrix mode .plus left right (temporalSum mode left right converts) := by
  unfold temporalSum
  split
  · rename_i ordered
    exact followsMatrix_orderedSum isTemporal ordered
  · rename_i reversed
    exact .of_reversed reversed
      (followsMatrix_orderedSum isTemporal.symm (DataType.preferred_eq_left reversed))

end Sum

section Difference

/-- An instant less a number of days is the instant that is moved back. -/
theorem temporalDifference_of_days (dated : left.type.hasDate = true)
    (days : right.type.countsDays = true) :
    temporalDifference mode left right converts = movedByDays mode .minus right left := by
  unfold temporalDifference movedByDays unitCount dayCount dayWord
  rcases DataType.countsDays_iff.mp days with whole | fraction
  · simp only [if_pos dated, if_pos whole]
    rfl
  · simp only [if_pos dated, if_neg (DataType.ne_integer_of_isFractional fraction), if_pos fraction]
    exact (bind_assoc _ _ _).symm

/-- A temporal value can be subtracted from an instant with a date. -/
theorem temporalDifference_of_instants (dated : left.type.hasDate = true)
    (isTemporal : right.type.isTemporal = true) :
    ∃ result, temporalDifference mode left right converts = .ok result := by
  unfold temporalDifference
  by_cases isTime : right.type = .time
  · simp only [if_pos dated, isTime, DataType.isFractional, reduceCtorEq, Bool.false_eq_true,
      ↓reduceIte]
    exact ⟨_, rfl⟩
  · have rightDated : right.type.hasDate = true := DataType.hasDate_of_isTemporal isTemporal isTime
    obtain ⟨noWhole, noFraction⟩ :=
      DataType.countsDays_eq_false_iff.mp (DataType.countsDays_of_hasDate rightDated)
    simp only [if_pos dated, if_neg noWhole, if_neg noFraction, if_neg isTime, if_pos rightDated]
    exact exists_call_dateDiff rightDated dated

/-- Nothing else can be subtracted from an instant with a date. -/
theorem temporalDifference_of_other (dated : left.type.hasDate = true)
    (noDays : right.type.countsDays = false) (noInstant : right.type.isTemporal = false) :
    temporalDifference mode left right converts =
      .error (.unsupported left.type .minus right.type) := by
  obtain ⟨noWhole, noFraction⟩ := DataType.countsDays_eq_false_iff.mp noDays
  have noTime : right.type ≠ .time := by
    intro isTime
    rw [isTime] at noInstant
    cases noInstant
  have undated : ¬ right.type.hasDate = true := by
    intro rightDated
    rw [DataType.isTemporal_of_hasDate rightDated] at noInstant
    cases noInstant
  unfold temporalDifference
  simp only [if_pos dated, if_neg noWhole, if_neg noFraction, if_neg noTime, if_neg undated]
  rfl

/-- A difference with a temporal operand follows the matrix. -/
theorem followsMatrix_temporalDifference :
    FollowsMatrix mode .minus left right (temporalDifference mode left right converts) := by
  have inOrder : ¬ Reversed .minus left.type right.type := nofun
  have noBytes : ¬ AnchorsBytes .minus left.type right.type := nofun
  by_cases dated : left.type.hasDate = true
  · have noLeftDays := DataType.countsDays_of_hasDate dated
    have combines : ArithOp.minus.combines left.type right.type =
        (right.type.countsDays || right.type.isTemporal) := ArithOp.combines_of_hasDate dated
    cases days : right.type.countsDays with
    | true =>
        rw [days] at combines
        refine .of_resolves (.inl combines) ?_
        rw [temporalDifference_of_days dated days,
          exists_movedByDays_iff (DataType.countsDays_iff.mp days),
          foldsQuietly_iff_daysFold noLeftDays days]
    | false =>
        cases isTemporal : right.type.isTemporal with
        | true =>
            rw [days, isTemporal] at combines
            have quiet : FoldsQuietly mode .minus left right :=
              foldsQuietly_of_noDays noLeftDays days
            exact .of_resolves (.inl combines)
              (iff_of_true (temporalDifference_of_instants dated isTemporal) quiet)
        | false =>
            refine .of_fails ?_ inOrder (temporalDifference_of_other dated days isTemporal)
            rw [combines, days, isTemporal]
            exact not_or.mpr ⟨nofun, noBytes⟩
  · have combines : ArithOp.minus.combines left.type right.type = true ↔
        left.type = .time ∧ right.type = .time :=
      ArithOp.combines_of_not_hasDate (Bool.not_eq_true _ ▸ dated)
    unfold temporalDifference
    rw [if_neg dated]
    split
    · rename_i times
      have noLeftDays : left.type.countsDays = false := by rw [times.1]; rfl
      have noRightDays : right.type.countsDays = false := by rw [times.2]; rfl
      exact .of_resolves (.inl (combines.mpr times))
        (iff_of_true ⟨_, rfl⟩ (foldsQuietly_of_noDays noLeftDays noRightDays))
    · rename_i others
      exact .of_fails (not_or.mpr ⟨mt combines.mp others, noBytes⟩) inOrder rfl

end Difference

end Resolution

namespace Expr

/-- Whatever its operands are, a sum or a difference of which one is temporal resolves if and only
if operands of these types have one and its constants are folded without a failure. It is
unsupported if they have none. Only bytes are added to a time of day though they have no sum. -/
theorem followsMatrix_of_operands {mode : Mode} {op : ArithOp} {a b left right : Expr}
    (additive : op = .plus ∨ op = .minus) (leftIs : a.resolve mode = .ok left)
    (rightIs : b.resolve mode = .ok right)
    (isTemporal : left.type.isTemporal = true ∨ right.type.isTemporal = true) :
    FollowsMatrix mode op left right ((arith op a b).resolve mode) := by
  rw [resolve_arith_of_operands leftIs rightIs, operation_of_temporal isTemporal]
  rcases additive with rfl | rfl
  · exact followsMatrix_temporalSum isTemporal
  · exact followsMatrix_temporalDifference

/-- A day is added to a column of dates, and a truth value is not. -/
theorem resolve_date_plus_day :
    let date : Expr := .column ⟨none, "D", some ⟨"T", ⟨0, .date⟩, 0⟩, true⟩
    let truth : Expr := .column ⟨none, "B", some ⟨"T", ⟨1, .boolean⟩, 0⟩, true⟩
    (∃ result, (arith .plus date (.int 1)).resolve .regular = .ok result) ∧
      (arith .plus date truth).resolve .regular = .error (.unsupported .boolean .plus .date) := by
  intro date truth
  have sumWithDay : FollowsMatrix .regular .plus date (.int 1)
      ((arith .plus date (.int 1)).resolve .regular) :=
    followsMatrix_of_operands (.inl rfl) rfl rfl (.inl rfl)
  have sumWithTruth : FollowsMatrix .regular .plus date truth
      ((arith .plus date truth).resolve .regular) :=
    followsMatrix_of_operands (.inl rfl) rfl rfl (.inl rfl)
  constructor
  · refine sumWithDay.resolves.mpr ⟨.inl rfl, nofun, fun _ number same => ?_⟩
    cases same
    have whole : (Value.integer 1).type = .integer := rfl
    have counted : constantUnits .regular .plus (.integer 1) = .ok (.integer 1) := by
      unfold constantUnits constantCount
      rw [if_neg nofun, if_pos whole]
    refine ⟨.integer 1, counted, ?_⟩
    intro moment same
    cases congrArg isConstant same
  · refine sumWithTruth.unsupportedReversed rfl ?_ (.inl ⟨rfl, nofun⟩)
    rintro ⟨_, ⟨isTime, _⟩ | ⟨isBytes, _⟩⟩
    · cases isTime
    · cases isBytes

/-- Bytes are preferred to a time of day like a date, and are added to one like a date. -/
theorem not_resolves_iff_combines :
    ¬ ∀ (mode : Mode) (op : ArithOp) (a b left right : Expr), op = .plus ∨ op = .minus →
      a.resolve mode = .ok left → b.resolve mode = .ok right →
      left.type.isTemporal = true ∨ right.type.isTemporal = true →
      FoldsQuietly mode op left right →
      ((∃ result, (arith op a b).resolve mode = .ok result) ↔
        op.combines left.type right.type = true) := by
  intro follows
  let clock : Expr := .column ⟨none, "A", some ⟨"T", ⟨0, .time⟩, 0⟩, true⟩
  let bytes : Expr := .column ⟨none, "B", some ⟨"T", ⟨1, .varbinary⟩, 0⟩, true⟩
  have defined := follows .regular .plus clock bytes clock bytes (.inl rfl) rfl rfl (.inl rfl)
    (foldsQuietly_of_noDays rfl rfl)
  cases defined.mp ⟨.binary (.arith .plus) clock bytes (some .timestamp) true, rfl⟩

end Expr

end SqlScalar
