import SqlScalar.Value.Basic

/-! # Orders of values

The values of one type are compared by what they hold: strings by their code points, decimal numbers
by their units whatever their scales, times of day by seconds and then by nanoseconds, a leap second
behind the second it follows. All of this is a total order in which different values may be equal.
Only floating-point values that are no numbers are left out of it.
-/

namespace SqlScalar

open Calendar

section Instances

instance : Std.TransCmp Decimal.compare :=
  inferInstanceAs (Std.TransCmp (compareOn Decimal.units))

instance : Std.TransCmp TimeOfDay.compare :=
  inferInstanceAs
    (Std.TransCmp (compareLex (compareOn TimeOfDay.second) (compareOn TimeOfDay.nano)))

instance : Std.TransCmp Date.compare :=
  inferInstanceAs (Std.TransCmp (compareOn Date.ordinal))

instance : Std.TransCmp Timestamp.compare :=
  inferInstanceAs (Std.TransCmp
    (compareLex (compareOn fun instant : Timestamp => instant.date.ordinal)
      (compareLex (compareOn fun instant : Timestamp => instant.time.second)
        (compareOn fun instant : Timestamp => instant.time.nano))))

end Instances

namespace Floating

variable {format : FloatFormat} {left right : Floating format}

/-- The units of a number with its sign. Infinities lie just outside the bound. -/
def rank : Floating format → Int
  | nan => 0
  | infinite negative => withSign negative (2 ^ format.width)
  | finite negative units _ => withSign negative units

/-- A magnitude below a bound lies between the bound and its opposite, with either sign. -/
theorem withSign_within {units bound : Nat} (below : units < bound) (negative : Bool) :
    -(bound : Int) < withSign negative units ∧ withSign negative units < bound := by
  unfold withSign
  split <;> omega

/-- Values that are numbers or infinities are compared by their ranks. -/
theorem compare_eq_some (leftNumber : left ≠ nan) (rightNumber : right ≠ nan) :
    left.compare right = some (Ord.compare left.rank right.rank) := by
  have positive : (0 : Int) < (2 ^ format.width : Nat) := Int.natCast_pos.mpr (Nat.two_pow_pos _)
  cases left with
  | nan => exact absurd rfl leftNumber
  | infinite leftSign =>
      cases right with
      | nan => exact absurd rfl rightNumber
      | infinite rightSign =>
          refine congrArg some (Eq.symm ?_)
          cases leftSign <;> cases rightSign
          · exact Int.compare_eq_eq.mpr rfl
          · exact Int.compare_eq_gt.mpr (Int.lt_trans (Int.neg_neg_of_pos positive) positive)
          · exact Int.compare_eq_lt.mpr (Int.lt_trans (Int.neg_neg_of_pos positive) positive)
          · exact Int.compare_eq_eq.mpr rfl
      | finite rightSign units representable =>
          have within := withSign_within representable.1 rightSign
          refine congrArg some (Eq.symm ?_)
          cases leftSign with
          | false => exact Int.compare_eq_gt.mpr within.2
          | true => exact Int.compare_eq_lt.mpr within.1
  | finite leftSign units representable =>
      have within := withSign_within representable.1 leftSign
      cases right with
      | nan => exact absurd rfl rightNumber
      | infinite rightSign =>
          refine congrArg some (Eq.symm ?_)
          cases rightSign with
          | false => exact Int.compare_eq_lt.mpr within.2
          | true => exact Int.compare_eq_gt.mpr within.1
      | finite rightSign units representable => rfl

end Floating

/-- The types all of whose values can be compared with each other. -/
def DataType.isOrdered : DataType → Bool
  | real | double | null | unknown => false
  | _ => true

theorem DataType.ne_unknown_of_isOrdered {type : DataType} (ordered : type.isOrdered = true) :
    type ≠ .unknown := by
  rintro rfl
  cases ordered

namespace Value

/-- Whether a value is a floating-point value that is no number. -/
def isNaN : Value → Bool
  | real .nan | double .nan => true
  | _ => false

/-- Whether some values are totally ordered by comparison, though different ones may be equal. -/
structure IsOrder (values : Value → Prop) : Prop where
  total {left right : Value} (isLeft : values left) (isRight : values right) :
    ∃ ordering, left.compare right = some ordering
  refl {value : Value} (isValue : values value) : value.compare value = some .eq
  swap {left right : Value} (isLeft : values left) (isRight : values right) {ordering : Ordering}
    (compares : left.compare right = some ordering) : right.compare left = some ordering.swap
  /-- What lies beyond a value lies beyond every other one that does not. -/
  beyond {wanted : Ordering} (strict : wanted ≠ .eq) {further value other : Value}
    (isFurther : values further) (isValue : values value) (isOther : values other)
    (lies : further.compare value = some wanted)
    (otherDoesNot : other.compare value ≠ some wanted) : further.compare other = some wanted

/-- Values are ordered as what they hold is. -/
theorem IsOrder.of_held {Held : Type} (order : Held → Held → Ordering) [Std.TransCmp order]
    {values : Value → Prop} (hold : Held → Value)
    (held : ∀ value, values value → ∃ content, value = hold content)
    (compares : ∀ left right, (hold left).compare (hold right) = some (order left right)) :
    IsOrder values where
  total isLeft isRight := by
    obtain ⟨left, rfl⟩ := held _ isLeft
    obtain ⟨right, rfl⟩ := held _ isRight
    exact ⟨_, compares left right⟩
  refl isValue := by
    obtain ⟨content, rfl⟩ := held _ isValue
    exact (compares content content).trans (congrArg some Std.ReflCmp.compare_self)
  swap isLeft isRight ordering same := by
    obtain ⟨left, rfl⟩ := held _ isLeft
    obtain ⟨right, rfl⟩ := held _ isRight
    rw [compares, Option.some.injEq] at same ⊢
    rw [← same]
    exact Std.OrientedCmp.eq_swap
  beyond := by
    intro wanted strict further value other isFurther isValue isOther lies otherDoesNot
    obtain ⟨further, rfl⟩ := held _ isFurther
    obtain ⟨value, rfl⟩ := held _ isValue
    obtain ⟨other, rfl⟩ := held _ isOther
    rw [compares, Option.some.injEq] at lies
    rw [compares, ne_eq, Option.some.injEq] at otherDoesNot
    rw [compares, Option.some.injEq]
    cases wanted with
    | eq => exact absurd rfl strict
    | lt =>
        have behind : (order value other).isLE = true :=
          Ordering.isLE_iff_ne_gt.mpr (mt Std.OrientedCmp.gt_iff_lt.mp otherDoesNot)
        exact Std.TransCmp.lt_of_lt_of_isLE lies behind
    | gt =>
        have before : (order other value).isLE = true := Ordering.isLE_iff_ne_gt.mpr otherDoesNot
        rw [Std.OrientedCmp.gt_iff_lt] at lies ⊢
        exact Std.TransCmp.lt_of_isLE_of_lt before lies

/-- The values of a type with an order are ordered by comparison. -/
theorem isOrder_of_isOrdered {type : DataType} (ordered : type.isOrdered = true) :
    IsOrder fun value => value.type = type := by
  cases type with
  | boolean =>
      refine .of_held Ord.compare boolean (fun value typed => ?_) fun _ _ => rfl
      cases value <;> first | exact ⟨_, rfl⟩ | cases typed
  | integer =>
      refine .of_held (compareOn Int32.toInt) integer (fun value typed => ?_) fun _ _ => rfl
      cases value <;> first | exact ⟨_, rfl⟩ | cases typed
  | bigint =>
      refine .of_held (compareOn Int64.toInt) bigint (fun value typed => ?_) fun _ _ => rfl
      cases value <;> first | exact ⟨_, rfl⟩ | cases typed
  | decimal =>
      refine .of_held Decimal.compare decimal (fun value typed => ?_) fun _ _ => rfl
      cases value <;> first | exact ⟨_, rfl⟩ | cases typed
  | varchar =>
      refine .of_held (compareOn String.toList) varchar (fun value typed => ?_) fun _ _ => rfl
      cases value <;> first | exact ⟨_, rfl⟩ | cases typed
  | time =>
      refine .of_held TimeOfDay.compare time (fun value typed => ?_) fun _ _ => rfl
      cases value <;> first | exact ⟨_, rfl⟩ | cases typed
  | date =>
      refine .of_held Date.compare date (fun value typed => ?_) fun _ _ => rfl
      cases value <;> first | exact ⟨_, rfl⟩ | cases typed
  | timestamp =>
      refine .of_held Timestamp.compare timestamp (fun value typed => ?_) fun _ _ => rfl
      cases value <;> first | exact ⟨_, rfl⟩ | cases typed
  | varbinary =>
      refine .of_held Ord.compare varbinary (fun value typed => ?_) fun _ _ => rfl
      cases value <;> first | exact ⟨_, rfl⟩ | cases typed
  | real | double | null | unknown => cases ordered

/-- The numbers of a floating-point format are ordered by rank, as are the values that hold them. -/
theorem isOrder_of_hold {format : FloatFormat} {type : DataType} (hold : Floating format → Value)
    (held : ∀ value, value.type = type → ∃ number, value = hold number)
    (isNaN : (hold .nan).isNaN = true)
    (compares : ∀ left right, (hold left).compare (hold right) = left.compare right) :
    IsOrder fun value => value.type = type ∧ value.isNaN = false := by
  let rank (number : {number : Floating format // number ≠ .nan}) : Int := number.1.rank
  refine .of_held (compareOn rank) (fun number => hold number.1) ?_ fun left right => ?_
  · rintro value ⟨typed, number⟩
    obtain ⟨content, rfl⟩ := held value typed
    refine ⟨⟨content, ?_⟩, rfl⟩
    rintro rfl
    rw [isNaN] at number
    cases number
  · rw [compares]
    exact Floating.compare_eq_some left.2 right.2

/-- Floating-point values are ordered by comparison, if they are numbers. -/
theorem isOrder_of_floating {type : DataType} (floating : type = .real ∨ type = .double) :
    IsOrder fun value => value.type = type ∧ value.isNaN = false := by
  rcases floating with rfl | rfl
  · refine isOrder_of_hold real (fun value typed => ?_) rfl fun _ _ => rfl
    cases value <;> first | exact ⟨_, rfl⟩ | cases typed
  · refine isOrder_of_hold double (fun value typed => ?_) rfl fun _ _ => rfl
    cases value <;> first | exact ⟨_, rfl⟩ | cases typed

end Value

end SqlScalar
