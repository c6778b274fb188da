import SqlScalar.Proofs.NodeValues
import SqlScalar.Proofs.TypeSoundness

/-! # Operands in either order

A sum or a product has the same outcome whichever operand comes first, unless it is meant as a
concatenation or computed in floating-point numbers. Operands of different types are put in order
when the operation is resolved, and operands of one type are combined symmetrically. The exception
is a product of two times of day: the first one is converted to a time of day, the second one is
taken as it is.
-/

namespace SqlScalar

open Calendar Resolution

/-- Whether two values are one, decimal numbers being told apart by what they stand for alone. -/
def Value.Matches : Value → Value → Prop
  | decimal left, decimal right => left.compare right = .eq
  | left, right => left = right

/-- Whether two outcomes are both failures, or values that match. -/
def Meet (first second : Outcome Value) : Prop :=
  match first, second with
  | .ok left, .ok right => left.Matches right
  | .error _, .error _ => True
  | _, _ => False

/-- The operators that do not care which of their operands comes first. -/
def ArithOp.isSymmetric : ArithOp → Bool
  | plus | multiply => true
  | _ => false

/-- The types of floating-point numbers, whose sums and products are rounded. -/
def DataType.isFloating : DataType → Bool
  | real | double => true
  | _ => false

/-- A value that is a time of day or missing. -/
def Value.IsClock (value : Value) : Prop :=
  value.isNull = true ∨ value.type = .time

section Meeting

variable {first second : Outcome Value}

theorem Decimal.compare_self (number : Decimal) : number.compare number = .eq := by
  unfold compare
  exact Std.ReflCmp.compare_self

theorem Value.matches_refl (value : Value) : value.Matches value := by
  cases value with
  | decimal number => exact number.compare_self
  | _ => rfl

theorem meet_refl (outcome : Outcome Value) : Meet outcome outcome := by
  cases outcome with
  | error failure => trivial
  | ok value => exact value.matches_refl

/-- Two outcomes meet if each value on one side has its match on the other. -/
theorem meet_of_values
    (there : ∀ value, first = .ok value → ∃ other, second = .ok other ∧ value.Matches other)
    (back : ∀ other, second = .ok other → ∃ value, first = .ok value) : Meet first second := by
  cases first with
  | ok value =>
      obtain ⟨other, rfl, same⟩ := there value rfl
      exact same
  | error failure =>
      cases second with
      | error _ => trivial
      | ok other =>
          obtain ⟨_, missing⟩ := back other rfl
          cases missing

/-- Where the first outcome is a value, the second one is a value that matches it. -/
theorem Meet.right_of_ok {value : Value} (meets : Meet first second) (isValue : first = .ok value) :
    ∃ other, second = .ok other ∧ value.Matches other := by
  subst isValue
  cases second with
  | error failure => exact meets.elim
  | ok other => exact ⟨other, rfl, meets⟩

theorem Meet.left_of_ok {other : Value} (meets : Meet first second) (isOther : second = .ok other) :
    ∃ value, first = .ok value := by
  subst isOther
  cases first with
  | error failure => exact meets.elim
  | ok value => exact ⟨value, rfl⟩

end Meeting

namespace DataType

/-- Which of two types is preferred does not depend on their order. -/
theorem preferred_comm (left right : DataType) : preferred left right = preferred right left := by
  unfold preferred
  rcases Nat.lt_trichotomy left.rank right.rank with below | same | above
  · rw [if_neg (by omega), if_pos below]
  · rw [if_neg (by omega), if_neg (by omega), eq_of_rank_eq same]
  · rw [if_pos above, if_neg (by omega)]

/-- Types have the same type in common in either order. -/
theorem promote_comm {left right common : DataType} (promotes : promote left right = .ok common) :
    promote right left = .ok common := by
  unfold promote at promotes ⊢
  split at promotes
  · cases promotes
  · rename_i determined
    rw [if_neg, preferred_comm]
    · exact promotes
    · rintro ⟨either, rightUntyped, leftUntyped⟩
      exact determined ⟨either.symm, leftUntyped, rightUntyped⟩

theorem hasDate_eq_false_of_isTemporal {type : DataType} (plain : type.isTemporal = false) :
    type.hasDate = false := by
  cases type <;> first | rfl | cases plain

theorem hasDate_of_isTemporal {type : DataType} (isTemporal : type.isTemporal = true)
    (other : type ≠ .time) : type.hasDate = true := by
  cases type <;> first | exact absurd rfl other | rfl | cases isTemporal

end DataType

namespace Decimal

variable {left right : Decimal}

theorem sum?_comm (left right : Decimal) : left.sum? right = right.sum? left := by
  simp only [sum?, Nat.max_comm right.scale, Int.add_comm (right.signedAt _)]

theorem multiply?_comm (left right : Decimal) : left.multiply? right = right.multiply? left := by
  have negatives : (right.negative != left.negative) = (left.negative != right.negative) :=
    Bool.xor_comm _ _
  simp only [multiply?, Bool.or_comm right.isZero, Nat.add_comm right.scale,
    Nat.mul_comm right.mantissa, negatives, and_left_comm]

/-- Zeros are equal, whatever their signs and scales. -/
theorem compare_of_isZero (leftZero : left.isZero = true) (rightZero : right.isZero = true) :
    left.compare right = .eq := by
  have units_eq {number : Decimal} (isZero : number.isZero = true) : number.units = 0 := by
    have none : number.mantissa = 0 := of_decide_eq_true isZero
    have nothing : number.signed = 0 := by
      unfold signed
      rw [none]
      split <;> rfl
    rw [units, nothing, Int.zero_mul]
  unfold compare
  rw [units_eq leftZero, units_eq rightZero]
  rfl

/-- Sums in both orders are the same number. They may differ in scale where both are zero. -/
theorem add?_comm {sum : Decimal} (adds : left.add? right = some sum) :
    ∃ other, right.add? left = some other ∧ sum.compare other = .eq := by
  unfold add? at adds ⊢
  cases leftZero : left.isZero with
  | true =>
      rw [leftZero] at adds
      cases adds
      cases rightZero : right.isZero with
      | true => exact ⟨left, rfl, compare_of_isZero rightZero leftZero⟩
      | false => exact ⟨right, rfl, compare_self right⟩
  | false =>
      rw [leftZero] at adds
      cases rightZero : right.isZero with
      | true =>
          rw [rightZero] at adds
          cases adds
          exact ⟨left, rfl, compare_self left⟩
      | false =>
          rw [rightZero] at adds
          refine ⟨sum, ?_, compare_self sum⟩
          rw [sum?_comm]
          exact adds

end Decimal

namespace ArithOp

variable {op : ArithOp}

theorem exact_comm (symmetric : op.isSymmetric = true) (left right : Int) :
    op.exact left right = op.exact right left := by
  cases op <;> cases symmetric
  · exact Int.add_comm left right
  · exact Int.mul_comm left right

/-- The result of a symmetric operator in 64 bits does not depend on the order. -/
theorem exact64?_comm (symmetric : op.isSymmetric = true) (left right : Int) :
    op.exact64? left right = op.exact64? right left := by
  have same := exact_comm symmetric left right
  cases op <;> cases symmetric
  · exact congrArg narrow64? same
  · exact congrArg narrow64? same

theorem divides_of_isSymmetric (symmetric : op.isSymmetric = true) : op.divides = false := by
  cases op <;> first | rfl | cases symmetric

/-- A symmetric operator on decimal numbers has results in either order that are equal. -/
theorem onDecimals?_comm (symmetric : op.isSymmetric = true) {left right result : Decimal}
    (computes : op.onDecimals? left right = some result) :
    ∃ other, op.onDecimals? right left = some other ∧ result.compare other = .eq := by
  cases op <;> cases symmetric
  · exact Decimal.add?_comm computes
  · refine ⟨result, ?_, result.compare_self⟩
    rw [onDecimals?, Decimal.multiply?_comm]
    exact computes

end ArithOp

namespace Value

variable {op : ArithOp} {left right result : Value} {type : DataType}

theorem unlessDivisor_of_isSymmetric {isZero : Bool} {computed : Outcome Value}
    (symmetric : op.isSymmetric = true) :
    unlessDivisor isZero op left right computed = computed := by
  unfold unlessDivisor
  rw [ArithOp.divides_of_isSymmetric symmetric]
  rfl

/-- Values of one type are added and multiplied in either order, unless the type is one of
floating-point numbers or has dates. A time of day is no factor of another one. -/
theorem arith_comm (symmetric : op.isSymmetric = true) (exact : type.isFloating = false)
    (undated : type.hasDate = false) (leftType : left.type = type) (rightType : right.type = type)
    (computes : left.arith op right = .ok result) :
    ∃ other, right.arith op left = .ok other ∧ result.Matches other := by
  subst leftType
  cases left with
  | integer a | bigint a =>
      cases right <;> cases rightType
      simp only [arith, unlessDivisor_of_isSymmetric symmetric, orOverflow_eq_ok] at computes ⊢
      rw [ArithOp.exact64?_comm symmetric]
      exact ⟨result, computes, result.matches_refl⟩
  | decimal a =>
      cases right <;> cases rightType
      simp only [arith, unlessDivisor_of_isSymmetric symmetric, orOverflow_eq_ok] at computes ⊢
      obtain ⟨number, adds, rfl⟩ := Option.map_eq_some_iff.mp computes
      obtain ⟨other, addsOther, same⟩ := ArithOp.onDecimals?_comm symmetric adds
      exact ⟨.decimal other, Option.map_eq_some_iff.mpr ⟨other, addsOther, rfl⟩, same⟩
  | time a =>
      cases right <;> cases rightType
      rename_i b
      cases op <;> cases symmetric
      · refine ⟨result, ?_, result.matches_refl⟩
        simp only [arith, Int.add_comm b.nanoseconds] at computes ⊢
        exact computes
      · cases computes
  | real _ | double _ => cases exact
  | date _ | timestamp _ => cases undated
  | null | boolean _ | varchar _ | varbinary _ =>
      cases right <;> cases rightType
      cases computes

end Value

namespace BinaryOp

variable {op : ArithOp} {type : DataType} {left right : Outcome Value} {result : Value}

/-- A symmetric operator has matching results in either order on values of one type that is
neither dated nor floating. -/
theorem combine_comm {mode : Mode} {a b : Value} (symmetric : op.isSymmetric = true)
    (exact : type.isFloating = false) (undated : type.hasDate = false)
    (leftType : a = .null ∨ a.type = type) (rightType : b = .null ∨ b.type = type)
    (combines : (arith op).combine mode a b = .ok result) :
    ∃ other, (arith op).combine mode b a = .ok other ∧ result.Matches other := by
  have swapped : (b.isNull || a.isNull) = (a.isNull || b.isNull) := Bool.or_comm _ _
  simp only [combine, swapped] at combines ⊢
  by_cases absent : (a.isNull || b.isNull) = true
  · rw [if_pos absent] at combines ⊢
    cases combines
    exact ⟨.null, rfl, rfl⟩
  · rw [if_neg absent] at combines ⊢
    rw [Bool.not_eq_true, Bool.or_eq_false_iff] at absent
    have ofType {value : Value} (valueType : value = .null ∨ value.type = type)
        (present : value.isNull = false) : value.type = type := by
      refine valueType.resolve_left ?_
      rintro rfl
      cases present
    exact Value.arith_comm symmetric exact undated (ofType leftType absent.1)
      (ofType rightType absent.2) combines

/-- Operands that are both converted to the type of the operation may change places. -/
theorem evaluate_comm {mode : Mode} (symmetric : op.isSymmetric = true) (typed : type ≠ .unknown)
    (exact : type.isFloating = false) (undated : type.hasDate = false)
    (evaluates : (arith op).evaluate mode type true left right = .ok result) :
    ∃ other, (arith op).evaluate mode type true right left = .ok other ∧ result.Matches other := by
  obtain ⟨a, a', b, b', leftIs, leftConverts, rightIs, rightConverts, combines⟩ :=
    evaluate_eq_ok.mp evaluates
  obtain ⟨other, combinesOther, same⟩ := combine_comm symmetric exact undated
    (Value.convertTo_type typed leftConverts) (Value.convertTo_type typed rightConverts) combines
  exact ⟨other, evaluate_eq_ok.mpr
    ⟨b, b', a, a', rightIs, rightConverts, leftIs, leftConverts, combinesOther⟩, same⟩

/-- A symmetric operation in such a type has outcomes that meet in either order. -/
theorem meet_evaluate {mode : Mode} (symmetric : op.isSymmetric = true) (typed : type ≠ .unknown)
    (exact : type.isFloating = false) (undated : type.hasDate = false) :
    Meet ((arith op).evaluate mode type true left right)
      ((arith op).evaluate mode type true right left) := by
  refine meet_of_values (fun _ => evaluate_comm symmetric typed exact undated) ?_
  intro other evaluates
  obtain ⟨value, evaluatesBack, _⟩ := evaluate_comm symmetric typed exact undated evaluates
  exact ⟨value, evaluatesBack⟩

end BinaryOp

namespace Resolution

variable {mode : Mode} {context : Context} {op : ArithOp} {left right : Expr} {type : DataType}

/-- Arithmetic is planned in the same way in either order. -/
theorem plan_comm {leftType rightType : DataType} {planned : BinaryOp × DataType}
    (plans : plan mode (.arith op) leftType rightType = .ok planned) :
    plan mode (.arith op) rightType leftType = .ok planned := by
  simp only [plan] at plans ⊢
  split at plans
  · rename_i untyped
    rw [if_pos ⟨untyped.1.symm, untyped.1 ▸ untyped.2⟩]
    exact plans
  · rename_i typed
    rw [if_neg]
    · obtain ⟨common, promotes, plans⟩ := bind_eq_ok.mp plans
      exact bind_eq_ok.mpr ⟨common, DataType.promote_comm promotes, plans⟩
    · rintro ⟨rfl, untyped⟩
      exact typed ⟨rfl, untyped⟩

/-- Operations without a temporal reading have one outcome in either order. -/
theorem meet_plain (symmetric : op.isSymmetric = true)
    (plain : Plain (.arith op) left.type right.type)
    (numeric : ∀ settled type, plan mode (.arith op) left.type right.type = .ok (settled, type) →
      settled ≠ .concat ∧ type.isFloating = false) :
    Meet (valueOf context (operation mode (.arith op) left right true))
      (valueOf context (operation mode (.arith op) right left true)) := by
  have plain' : Plain (.arith op) right.type left.type := .inr (plain.resolve_left nofun).symm
  rw [operation_of_plain plain, operation_of_plain plain']
  cases planned : plan mode (.arith op) left.type right.type with
  | error failure =>
      cases planned' : plan mode (.arith op) right.type left.type with
      | error failure' => trivial
      | ok plans =>
          rw [plan_comm planned'] at planned
          cases planned
  | ok plans =>
      obtain ⟨settled, type⟩ := plans
      rw [plan_comm planned]
      obtain ⟨noConcat, exact⟩ := numeric settled type planned
      cases settled with
      | concat => exact absurd rfl noConcat
      | arith kept =>
          have unchanged := eq_arith_of_plan planned
          cases unchanged
          have typed := DataType.ne_unknown_of_typed (plan_typed planned).1
          have undated := DataType.hasDate_eq_false_of_isTemporal (isTemporal_of_plan plain planned)
          change Meet (valueOf context (fold mode (.arith op) left right type true))
            (valueOf context (fold mode (.arith op) right left type true))
          rw [valueOf_fold_arith, valueOf_fold_arith]
          exact BinaryOp.meet_evaluate symmetric typed exact undated

/-- Operands of different types are put in the same order, whichever order they are in. -/
theorem temporalSum_comm {converts : Bool} (different : left.type ≠ right.type) :
    temporalSum mode left right converts = temporalSum mode right left converts := by
  unfold temporalSum
  rw [DataType.preferred_comm right.type left.type]
  by_cases ordered : DataType.preferred left.type right.type = right.type
  · rw [if_pos ordered, if_neg]
    rw [ordered]
    exact different.symm
  · rw [if_neg ordered, if_pos]
    unfold DataType.preferred at ordered ⊢
    split at ordered
    · rename_i below
      exact if_pos below
    · exact absurd rfl ordered

theorem temporalSum_of_times (leftTime : left.type = .time) (rightTime : right.type = .time) :
    temporalSum mode left right true =
      .ok (.binary (.arith .plus) left right (some .time) true) := by
  unfold temporalSum orderedSum
  rw [leftTime, rightTime]
  rfl

/-- Two dates are not added, nor two timestamps. -/
theorem temporalSum_of_dates (leftType : left.type = type) (rightType : right.type = type)
    (dated : type.hasDate = true) :
    temporalSum mode left right true = unsupported type .plus type := by
  unfold temporalSum orderedSum
  rw [leftType, rightType]
  cases type <;> cases dated <;> rfl

/-- Sums with a temporal operand have outcomes that meet in either order. -/
theorem meet_temporalSum (isTemporal : left.type.isTemporal = true ∨ right.type.isTemporal = true) :
    Meet (valueOf context (temporalSum mode left right true))
      (valueOf context (temporalSum mode right left true)) := by
  by_cases same : left.type = right.type
  · rw [← same, or_self] at isTemporal
    by_cases leftTime : left.type = .time
    · have rightTime : right.type = .time := same ▸ leftTime
      rw [temporalSum_of_times leftTime rightTime, temporalSum_of_times rightTime leftTime]
      exact BinaryOp.meet_evaluate rfl nofun rfl rfl
    · have dated := DataType.hasDate_of_isTemporal isTemporal leftTime
      rw [temporalSum_of_dates rfl same.symm dated, temporalSum_of_dates same.symm rfl dated]
      exact meet_refl _
  · rw [temporalSum_comm same]
    exact meet_refl _

section Times

variable {first second : Outcome Value}

theorem convertTo_time_of_isClock {value : Value} (clock : value.IsClock) :
    value.convertTo .time = .ok value := by
  rcases clock with absent | isTime
  · cases value <;> cases absent
    exact Value.convertTo_null
  · exact if_pos (.inl isTime)

/-- A time of day is no factor of another one, so a product of them is `NULL` if it is anything. -/
theorem product_of_clocks_eq_ok {mode : Mode} {result : Value}
    (firstClock : ∀ value, first = .ok value → value.IsClock)
    (secondClock : ∀ value, second = .ok value → value.IsClock) :
    (BinaryOp.arith .multiply).evaluate mode .time false first second = .ok result ↔
      result = .null ∧
        ∃ a b, first = .ok a ∧ second = .ok b ∧ (a.isNull = true ∨ b.isNull = true) := by
  rw [BinaryOp.evaluate_eq_ok]
  constructor
  · rintro ⟨a, a', b, b', firstIs, converts, secondIs, rightConverts, combines⟩
    cases rightConverts
    rw [convertTo_time_of_isClock (firstClock a firstIs)] at converts
    cases converts
    simp only [BinaryOp.combine] at combines
    by_cases absent : (a.isNull || b.isNull) = true
    · rw [if_pos absent] at combines
      cases combines
      exact ⟨rfl, a, b, firstIs, secondIs, (Bool.or_eq_true _ _).mp absent⟩
    · rw [if_neg absent] at combines
      rw [Bool.not_eq_true, Bool.or_eq_false_iff] at absent
      have firstTime := (firstClock a firstIs).resolve_left (Bool.not_eq_true _ ▸ absent.1)
      have secondTime := (secondClock b secondIs).resolve_left (Bool.not_eq_true _ ▸ absent.2)
      cases a <;> cases firstTime
      cases b <;> cases secondTime
      cases combines
  · rintro ⟨rfl, a, b, firstIs, secondIs, absent⟩
    have converts := convertTo_time_of_isClock (firstClock a firstIs)
    refine ⟨a, a, b, b, firstIs, converts, secondIs, rfl, ?_⟩
    exact if_pos ((Bool.or_eq_true _ _).mpr absent)

/-- Products of times of day fail in either order, or are `NULL`. -/
theorem meet_product_of_clocks {mode : Mode}
    (firstClock : ∀ value, first = .ok value → value.IsClock)
    (secondClock : ∀ value, second = .ok value → value.IsClock) :
    Meet ((BinaryOp.arith .multiply).evaluate mode .time false first second)
      ((BinaryOp.arith .multiply).evaluate mode .time false second first) := by
  have turned {result : Value} :
      (BinaryOp.arith .multiply).evaluate mode .time false first second = .ok result ↔
        (BinaryOp.arith .multiply).evaluate mode .time false second first = .ok result := by
    rw [product_of_clocks_eq_ok firstClock secondClock,
      product_of_clocks_eq_ok secondClock firstClock]
    constructor
    · rintro ⟨same, a, b, firstIs, secondIs, absent⟩
      exact ⟨same, b, a, secondIs, firstIs, absent.symm⟩
    · rintro ⟨same, b, a, secondIs, firstIs, absent⟩
      exact ⟨same, a, b, firstIs, secondIs, absent.symm⟩
  exact meet_of_values (fun value evaluates => ⟨value, turned.mp evaluates, value.matches_refl⟩)
    (fun value evaluates => ⟨value, turned.mpr evaluates⟩)

end Times

/-- An expression whose values are times of day or `NULL`. -/
def HoldsClocks (context : Context) (expr : Expr) : Prop :=
  ∀ value, expr.evaluate context = .ok value → value.IsClock

/-- A product with a time of day puts it first, and only two of them compete for the place. -/
theorem meet_temporalProduct
    (clocks : left.type = .time → right.type = .time →
      HoldsClocks context left ∧ HoldsClocks context right) :
    Meet (valueOf context (temporal mode .multiply left right true))
      (valueOf context (temporal mode .multiply right left true)) := by
  simp only [temporal]
  by_cases leftTime : left.type = .time
  · by_cases rightTime : right.type = .time
    · rw [if_pos leftTime, if_pos rightTime]
      obtain ⟨leftClocks, rightClocks⟩ := clocks leftTime rightTime
      exact meet_product_of_clocks leftClocks rightClocks
    · rw [if_pos leftTime, if_neg rightTime, if_pos leftTime]
      exact meet_refl _
  · by_cases rightTime : right.type = .time
    · rw [if_neg leftTime, if_pos rightTime, if_pos rightTime]
      exact meet_refl _
    · rw [if_neg leftTime, if_neg rightTime, if_neg leftTime, if_neg rightTime]
      trivial

/-- A symmetric operation on resolved operands has outcomes that meet in either order, under these
conditions. -/
theorem meet_operation (symmetric : op.isSymmetric = true)
    (numeric : ∀ settled type, plan mode (.arith op) left.type right.type = .ok (settled, type) →
      settled ≠ .concat ∧ type.isFloating = false)
    (clocks : op = .multiply → left.type = .time → right.type = .time →
      HoldsClocks context left ∧ HoldsClocks context right) :
    Meet (valueOf context (operation mode (.arith op) left right true))
      (valueOf context (operation mode (.arith op) right left true)) := by
  rcases plain_or_temporal (.arith op) left.type right.type with plain | ⟨_, same, isTemporal⟩
  · exact meet_plain symmetric plain numeric
  · cases same
    rw [operation_of_temporal isTemporal, operation_of_temporal isTemporal.symm]
    cases op <;> cases symmetric
    · exact meet_temporalSum isTemporal
    · exact meet_temporalProduct (clocks rfl)

end Resolution

namespace Expr

/-- Whether resolution gives an operation this operator and this type, before it folds it. -/
def PlannedAs (mode : Mode) (op : ArithOp) (left right : Expr) (settled : BinaryOp)
    (type : DataType) : Prop :=
  ∃ left' right', left.resolve mode = .ok left' ∧ right.resolve mode = .ok right' ∧
    plan mode (.arith op) left'.type right'.type = .ok (settled, type)

/-- Whether two operands, if both are times of day, only evaluate to times of day and `NULL`. -/
def HoldClocks (mode : Mode) (context : Context) (left right : Expr) : Prop :=
  ∀ left' right', left.resolve mode = .ok left' → right.resolve mode = .ok right' →
    left'.type = .time → right'.type = .time →
      HoldsClocks context left' ∧ HoldsClocks context right'

variable {mode : Mode} {context : Context} {op : ArithOp} {left right : Expr}

/-- Arithmetic has a value just if its operands can be resolved and the operation on them has it. -/
theorem valueOf_resolve_eq_ok {value : Value} :
    valueOf context ((arith op left right).resolve mode) = .ok value ↔
      ∃ left' right', left.resolve mode = .ok left' ∧ right.resolve mode = .ok right' ∧
        valueOf context (Resolution.operation mode (.arith op) left' right' true) = .ok value := by
  constructor
  · intro isValue
    obtain ⟨result, resolves, evaluates⟩ := bind_eq_ok.mp isValue
    obtain ⟨left', leftIs, rest⟩ := bind_eq_ok.mp resolves
    obtain ⟨right', rightIs, operates⟩ := bind_eq_ok.mp rest
    exact ⟨left', right', leftIs, rightIs, bind_eq_ok.mpr ⟨result, operates, evaluates⟩⟩
  · rintro ⟨left', right', leftIs, rightIs, isValue⟩
    rw [resolve_arith_of_operands leftIs rightIs]
    exact isValue

/-- A sum or a product means the same in either order of its operands, whatever they are and
whichever mode it is resolved and evaluated with, unless it is a concatenation or computed in
floating-point numbers. Times of day are only multiplied with each other if that is what they
are. -/
theorem meet_swapped_operands (symmetric : op.isSymmetric = true)
    (numeric : ∀ settled type, PlannedAs mode op left right settled type →
      settled ≠ .concat ∧ type.isFloating = false)
    (clocks : op = .multiply → HoldClocks mode context left right) :
    Meet (valueOf context ((arith op left right).resolve mode))
      (valueOf context ((arith op right left).resolve mode)) := by
  have met {left' right' : Expr} (leftIs : left.resolve mode = .ok left')
      (rightIs : right.resolve mode = .ok right') :
      Meet (valueOf context (Resolution.operation mode (.arith op) left' right' true))
        (valueOf context (Resolution.operation mode (.arith op) right' left' true)) :=
    meet_operation symmetric
      (fun settled type planned => numeric settled type ⟨left', right', leftIs, rightIs, planned⟩)
      (fun multiplies => clocks multiplies left' right' leftIs rightIs)
  refine meet_of_values (fun value isValue => ?_) (fun other isOther => ?_)
  · obtain ⟨left', right', leftIs, rightIs, evaluates⟩ := valueOf_resolve_eq_ok.mp isValue
    obtain ⟨other, evaluatesOther, same⟩ := (met leftIs rightIs).right_of_ok evaluates
    exact ⟨other, valueOf_resolve_eq_ok.mpr ⟨right', left', rightIs, leftIs, evaluatesOther⟩, same⟩
  · obtain ⟨right', left', rightIs, leftIs, evaluates⟩ := valueOf_resolve_eq_ok.mp isOther
    obtain ⟨value, evaluatesValue⟩ := (met leftIs rightIs).left_of_ok evaluates
    exact ⟨value, valueOf_resolve_eq_ok.mpr ⟨left', right', leftIs, rightIs, evaluatesValue⟩⟩

/-- A day and a half after the first day of 1970 is the same instant whichever way round it is
written. -/
theorem meet_swapped_date_and_days :
    let date : Expr := .column ⟨none, "D", some ⟨"T", ⟨0, .date⟩, 0⟩, true⟩
    let days : Expr := .literal (.decimal ⟨false, 15, 1, by decide, by decide⟩)
    let context : Context := ⟨.regular, [.date .epoch], []⟩
    Meet (valueOf context ((arith .plus date days).resolve .regular))
      (valueOf context ((arith .plus days date).resolve .regular)) := by
  intro date days context
  refine meet_swapped_operands rfl ?_ nofun
  rintro settled type ⟨date', days', dateIs, daysAre, planned⟩
  cases dateIs
  cases daysAre
  cases planned
  exact ⟨nofun, rfl⟩

/-- Columns of times of day that hold a number and `NULL` are not multiplied in either order: the
number is only converted to a time of day if it comes first. -/
theorem not_meet_swapped_factors :
    ¬ ∀ (mode : Mode) (context : Context) (op : ArithOp) (left right : Expr),
      op.isSymmetric = true →
      (∀ settled type, PlannedAs mode op left right settled type →
        settled ≠ .concat ∧ type.isFloating = false) →
      Meet (valueOf context ((arith op left right).resolve mode))
        (valueOf context ((arith op right left).resolve mode)) := by
  intro met
  let number : Expr := .column ⟨none, "A", some ⟨"T", ⟨0, .time⟩, 0⟩, true⟩
  let missing : Expr := .column ⟨none, "B", some ⟨"T", ⟨1, .time⟩, 0⟩, true⟩
  let context : Context := ⟨.regular, [.integer 2, .null], []⟩
  have fails : valueOf context ((arith .multiply number missing).resolve .regular) =
      .error (.conversion "2" .time) := rfl
  have succeeds : valueOf context ((arith .multiply missing number).resolve .regular) =
      .ok .null := rfl
  have scaled := met .regular context .multiply number missing rfl
  rw [fails, succeeds] at scaled
  refine scaled ?_
  rintro settled type ⟨left', right', leftIs, rightIs, planned⟩
  cases leftIs
  cases rightIs
  cases planned
  exact ⟨nofun, rfl⟩

end Expr

end SqlScalar
