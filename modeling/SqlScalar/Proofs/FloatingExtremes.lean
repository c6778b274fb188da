import SqlScalar.Proofs.Extremes

/-! # Extremes of floating-point values

A floating-point value that is no number compares to none. If it is the first value of a group, it
stays, and behind another value it is passed over, so that the extreme is one of the numbers alone.
The order of the rows matters for this and for nothing else.
-/

namespace SqlScalar

namespace Value

/-- The values other than those that are no numbers. -/
def numbers (values : List Value) : List Value :=
  values.filter fun value => !value.isNaN

/-- Whether the first value that is not `NULL` is no number. -/
def startsWithNaN (inputs : List Value) : Bool :=
  (nonNulls inputs).head?.any isNaN

/-- Whether two values are equal to a comparison, or else both no numbers or both `NULL`. -/
def Agree (left right : Value) : Prop :=
  left.isNull = true ∧ right.isNull = true ∨ left.isNaN = true ∧ right.isNaN = true ∨
    left.compare right = some .eq

variable {wanted : Ordering} {value other current candidate : Value} {values reordered : List Value}

theorem numbers_cons_of_isNaN (isNaN : value.isNaN = true) :
    numbers (value :: values) = numbers values :=
  List.filter_cons_of_neg (by rw [isNaN]; exact Bool.false_ne_true)

theorem numbers_cons_of_number (isNumber : value.isNaN = false) :
    numbers (value :: values) = value :: numbers values :=
  List.filter_cons_of_pos (by rw [isNumber]; rfl)

/-- There are two values that are no numbers, one of each format. -/
theorem eq_nan_of_isNaN (isNaN : value.isNaN = true) : value = real .nan ∨ value = double .nan := by
  cases value with
  | real number =>
      cases number with
      | nan => exact .inl rfl
      | infinite _ | finite _ _ _ => cases isNaN
  | double number =>
      cases number with
      | nan => exact .inr rfl
      | infinite _ | finite _ _ _ => cases isNaN
  | _ => cases isNaN

theorem compare_of_left_isNaN (isNaN : value.isNaN = true) : value.compare other = none := by
  rcases eq_nan_of_isNaN isNaN with rfl | rfl
  · cases other <;> rfl
  · cases other <;> rfl

/-- Nothing compares to what is no number. -/
theorem compare_of_right_isNaN (isNaN : other.isNaN = true) : value.compare other = none := by
  rcases eq_nan_of_isNaN isNaN with rfl | rfl
  · cases value with
    | real number => cases number <;> rfl
    | _ => rfl
  · cases value with
    | double number => cases number <;> rfl
    | _ => rfl

/-- Values that compare are numbers. -/
theorem isNaN_of_compare {ordering : Ordering} (compares : value.compare other = some ordering) :
    value.isNaN = false ∧ other.isNaN = false := by
  refine ⟨Bool.eq_false_iff.mpr fun isNaN => ?_, Bool.eq_false_iff.mpr fun isNaN => ?_⟩
  · rw [compare_of_left_isNaN isNaN] at compares
    cases compares
  · rw [compare_of_right_isNaN isNaN] at compares
    cases compares

/-- Nothing takes the place of a value that is no number, and such a value takes the place of
none. -/
theorem isNaN_foldl_pick : (values.foldl (pick wanted) current).isNaN = current.isNaN := by
  induction values generalizing current with
  | nil => rfl
  | cons candidate rest ih =>
      rw [List.foldl_cons, ih, pick]
      split
      · rename_i compares
        obtain ⟨isNumber, currentIsNumber⟩ := isNaN_of_compare compares
        rw [isNumber, currentIsNumber]
      · rfl

/-- Of values that agree both are numbers or neither is. -/
theorem Agree.isNaN_eq (agree : value.Agree other) : value.isNaN = other.isNaN := by
  rcases agree with ⟨isNull, otherIsNull⟩ | ⟨isNaN, otherIsNaN⟩ | same
  · cases value <;> cases isNull
    cases other <;> cases otherIsNull
    rfl
  · rw [isNaN, otherIsNaN]
  · obtain ⟨isNumber, otherIsNumber⟩ := isNaN_of_compare same
    rw [isNumber, otherIsNumber]

/-- Values that are no numbers are passed over. -/
theorem foldl_pick_numbers :
    values.foldl (pick wanted) current = (numbers values).foldl (pick wanted) current := by
  induction values generalizing current with
  | nil => rfl
  | cons candidate rest ih =>
      cases isNaN : candidate.isNaN with
      | true =>
          have stays : pick wanted current candidate = current := by
            rw [pick, compare_of_left_isNaN isNaN, if_neg nofun]
          rw [List.foldl_cons, stays, numbers_cons_of_isNaN isNaN, ih]
      | false => rw [numbers_cons_of_number isNaN, List.foldl_cons, List.foldl_cons, ih]

/-- First extremes of one list in two orders are equal to a comparison. -/
theorem compare_of_isFirstExtreme {ordered : Value → Prop} (order : IsOrder ordered)
    (strict : wanted ≠ .eq) (allOrdered : ∀ value ∈ values, ordered value)
    (perm : reordered.Perm values) (isExtreme : IsFirstExtreme wanted values value)
    (isOther : IsFirstExtreme wanted reordered other) : value.compare other = some .eq := by
  have isMember := isExtreme.mem
  have otherIsMember : other ∈ values := perm.mem_iff.mp isOther.mem
  have isOrdered := allOrdered value isMember
  have otherIsOrdered := allOrdered other otherIsMember
  obtain ⟨ordering, compares⟩ := order.total isOrdered otherIsOrdered
  have backwards := order.swap isOrdered otherIsOrdered compares
  have notBeyond := isOther.unbeaten (perm.mem_iff.mpr isMember)
  have otherNotBeyond := isExtreme.unbeaten otherIsMember
  rw [compares, ne_eq, Option.some.injEq] at notBeyond
  rw [backwards, ne_eq, Option.some.injEq] at otherNotBeyond
  rw [compares]
  -- Neither lies beyond the other, whichever of the two ways is wanted.
  cases ordering <;> cases wanted <;> first | rfl | contradiction

section Agreement

variable {type : DataType} (floating : type = .real ∨ type = .double) (strict : wanted ≠ .eq)
  (typed : ∀ value ∈ values, value.type = type)

include typed in
theorem type_of_mem_numbers :
    ∀ value ∈ numbers values, value.type = type ∧ value.isNaN = false := by
  intro value isMember
  obtain ⟨isValue, isNumber⟩ := List.mem_filter.mp isMember
  exact ⟨typed value isValue, Bool.not_eq_true' _ ▸ isNumber⟩

include floating strict

/-- The extreme of a list that starts with a number is that of the numbers in it. -/
theorem isFirstExtreme_numbers {first : Value} {rest : List Value}
    (typed : ∀ value ∈ first :: rest, value.type = type) (isNumber : first.isNaN = false) :
    IsFirstExtreme wanted (numbers (first :: rest)) (rest.foldl (pick wanted) first) := by
  have ordered := type_of_mem_numbers typed
  rw [numbers_cons_of_number isNumber] at ordered ⊢
  rw [foldl_pick_numbers]
  exact isFirstExtreme_foldl_pick (isOrder_of_floating floating) strict ordered

/-- What is picked from a list in two orders agrees just if both start with a number or neither
does. -/
theorem agree_pickAll?_iff (typed : ∀ value ∈ values, value.type = type)
    (perm : reordered.Perm values) :
    ((pickAll? wanted values).getD .null).Agree ((pickAll? wanted reordered).getD .null) ↔
      values.head?.any isNaN = reordered.head?.any isNaN := by
  cases values with
  | nil =>
      rw [List.perm_nil.mp perm]
      exact ⟨fun _ => rfl, fun _ => .inl ⟨rfl, rfl⟩⟩
  | cons first rest =>
      cases reordered with
      | nil => exact absurd perm.length_eq nofun
      | cons otherFirst otherRest =>
          have otherTyped : ∀ value ∈ otherFirst :: otherRest, value.type = type :=
            fun value isMember => typed value (perm.mem_iff.mp isMember)
          change (rest.foldl (pick wanted) first).Agree
            (otherRest.foldl (pick wanted) otherFirst) ↔ first.isNaN = otherFirst.isNaN
          refine ⟨fun agree => ?_, fun same => ?_⟩
          · have alike := agree.isNaN_eq
            rwa [isNaN_foldl_pick, isNaN_foldl_pick] at alike
          · cases isNaN : first.isNaN with
            | true =>
                refine .inr (.inl ⟨?_, ?_⟩)
                · rw [isNaN_foldl_pick, isNaN]
                · rw [isNaN_foldl_pick, ← same, isNaN]
            | false =>
                refine .inr (.inr (compare_of_isFirstExtreme (isOrder_of_floating floating)
                  strict (type_of_mem_numbers typed) (perm.filter _) ?_ ?_))
                · exact isFirstExtreme_numbers floating strict typed isNaN
                · exact isFirstExtreme_numbers floating strict otherTyped (same.symm.trans isNaN)

end Agreement

end Value

namespace Expr

variable {kind : AggregateKind} {wanted : Ordering} {reference : ColumnRef}
  {contexts reordered : List Context} {inputs reorderedInputs : List Value}

/-- A minimum or maximum over a floating-point column can be resolved, and takes all rows in which
the column is `NULL` or of its type, in any order. What it comes to in two orders of the rows agrees
just if the first value other than `NULL` is a number in both orders or in neither. -/
theorem floating_extremes_agree_iff (mode : Mode) (finds : kind.wanted? = some wanted)
    (floating : reference.type = .real ∨ reference.type = .double) (perm : reordered.Perm contexts)
    (supplies : List.Forall₂ reference.Supplies contexts inputs)
    (reorderedSupplies : List.Forall₂ reference.Supplies reordered reorderedInputs) :
    ∃ (fresh : Expr) (extreme reorderedExtreme : Value),
      (aggregated kind (column reference)).resolve mode = .ok fresh ∧
      fresh.ComesTo contexts extreme ∧ fresh.ComesTo reordered reorderedExtreme ∧
      (extreme.Agree reorderedExtreme ↔
        Value.startsWithNaN inputs = Value.startsWithNaN reorderedInputs) := by
  have typed : reference.type ≠ .unknown := by
    rcases floating with real | double
    · rw [real]
      nofun
    · rw [double]
      nofun
  have inputsPerm := ColumnRef.perm_of_supplies supplies reorderedSupplies perm
  obtain ⟨fed, feeds, evaluates⟩ := feedAll_of_wanted? finds supplies
  obtain ⟨reorderedFed, reorderedFeeds, reorderedEvaluates⟩ :=
    feedAll_of_wanted? finds reorderedSupplies
  refine ⟨_, _, _, resolve_aggregated_column mode typed
    (AggregateKind.outputType_of_wanted? finds _), ⟨fed, feeds, evaluates⟩,
    ⟨reorderedFed, reorderedFeeds, reorderedEvaluates⟩, ?_⟩
  exact Value.agree_pickAll?_iff floating (AggregateKind.strict_of_wanted? finds)
    (ColumnRef.type_of_supplies supplies) (inputsPerm.filter _)

/-- What is no number does not come first in either order of these rows, so they have minima that
agree. -/
theorem floating_minimum_of_zero_and_infinity :
    let ratio : ColumnRef := ⟨none, "R", some ⟨"T", ⟨0, .real⟩, 0⟩, true⟩
    let holding (value : Value) : Context := ⟨.regular, [value], []⟩
    let zero : Value := .real (.finite false 0 ⟨Nat.two_pow_pos _, Nat.dvd_zero _⟩)
    let infinity : Value := .real (.infinite false)
    let nan : Value := .real .nan
    ∃ (fresh : Expr) (minimum reorderedMinimum : Value),
      (aggregated .min (column ratio)).resolve .regular = .ok fresh ∧
      fresh.ComesTo [holding .null, holding zero, holding nan, holding infinity] minimum ∧
      fresh.ComesTo [holding infinity, holding nan, holding zero, holding .null] reorderedMinimum ∧
      minimum.Agree reorderedMinimum := by
  intro ratio holding zero infinity nan
  have finds : AggregateKind.min.wanted? = some .lt := rfl
  have perm : [holding infinity, holding nan, holding zero, holding .null].Perm
      [holding .null, holding zero, holding nan, holding infinity] :=
    List.reverse_perm [holding .null, holding zero, holding nan, holding infinity]
  have supplies : List.Forall₂ ratio.Supplies
      [holding .null, holding zero, holding nan, holding infinity] [.null, zero, nan, infinity] :=
    .cons ⟨rfl, .inl rfl⟩ <| .cons ⟨rfl, .inr rfl⟩ <| .cons ⟨rfl, .inr rfl⟩ <|
      .cons ⟨rfl, .inr rfl⟩ .nil
  have reorderedSupplies : List.Forall₂ ratio.Supplies
      [holding infinity, holding nan, holding zero, holding .null] [infinity, nan, zero, .null] :=
    .cons ⟨rfl, .inr rfl⟩ <| .cons ⟨rfl, .inr rfl⟩ <| .cons ⟨rfl, .inr rfl⟩ <|
      .cons ⟨rfl, .inl rfl⟩ .nil
  obtain ⟨fresh, minimum, reorderedMinimum, resolves, comesTo, reorderedComesTo, agree⟩ :=
    floating_extremes_agree_iff .regular finds (.inl rfl) perm supplies reorderedSupplies
  exact ⟨fresh, minimum, reorderedMinimum, resolves, comesTo, reorderedComesTo, agree.mpr rfl⟩

/-- What is no number is the minimum of two rows if it comes first, and else the number is. -/
theorem not_agree_of_leading_nan :
    let ratio : ColumnRef := ⟨none, "R", some ⟨"T", ⟨0, .real⟩, 0⟩, true⟩
    let holding (value : Value) : Context := ⟨.regular, [value], []⟩
    let zero : Value := .real (.finite false 0 ⟨Nat.two_pow_pos _, Nat.dvd_zero _⟩)
    let nan : Value := .real .nan
    [holding zero, holding nan].Perm [holding nan, holding zero] ∧
      List.Forall₂ ratio.Supplies [holding nan, holding zero] [nan, zero] ∧
      ∃ fresh : Expr, (aggregated .min (column ratio)).resolve .regular = .ok fresh ∧
        fresh.ComesTo [holding nan, holding zero] nan ∧
        fresh.ComesTo [holding zero, holding nan] zero ∧ ¬ nan.Agree zero := by
  intro ratio holding zero nan
  refine ⟨.swap .., .cons ⟨rfl, .inr rfl⟩ <| .cons ⟨rfl, .inr rfl⟩ .nil, _, rfl, ?_, ?_, ?_⟩
  · exact ⟨_, rfl, fun _ => rfl⟩
  · exact ⟨_, rfl, fun _ => rfl⟩
  · rintro (⟨isNull, _⟩ | ⟨_, isNaN⟩ | same)
    · cases isNull
    · cases isNaN
    · cases same

end Expr

end SqlScalar
