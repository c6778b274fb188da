import SqlScalar.Proofs.ColumnRuns
import SqlScalar.Proofs.ValueOrder

/-! # Minima and maxima

The minimum or maximum over a column is one of the values the rows have there: the first one that
no other value lies beyond. Of values that are equal in the order of their type the earliest one is
kept.
-/

namespace SqlScalar

/-- How a value has to compare to an aggregate of the values before it to take its place. -/
def AggregateKind.wanted? : AggregateKind → Option Ordering
  | min => some .lt
  | max => some .gt
  | count | sum => none

namespace Value

/-- Whether a value is the first one in a list that no value in the list lies beyond. -/
def IsFirstExtreme (wanted : Ordering) (values : List Value) (extreme : Value) : Prop :=
  ∃ before after, values = before ++ extreme :: after ∧
    (∀ value ∈ values, value.compare extreme ≠ some wanted) ∧
    ∀ earlier ∈ before, ∃ value ∈ values, value.compare earlier = some wanted

/-- Whether a value is the extreme of some inputs: `NULL` if all of them are, and else the first one
other than `NULL` that none lies beyond. -/
structure IsExtremeOf (wanted : Ordering) (inputs : List Value) (extreme : Value) : Prop where
  null : nonNulls inputs = [] → extreme = .null
  first : nonNulls inputs ≠ [] → IsFirstExtreme wanted (nonNulls inputs) extreme

namespace IsFirstExtreme

variable {wanted : Ordering} {values : List Value} {extreme other value : Value}

theorem mem (isExtreme : IsFirstExtreme wanted values extreme) : extreme ∈ values := by
  obtain ⟨before, after, rfl, _⟩ := isExtreme
  exact List.mem_append_right _ List.mem_cons_self

theorem unbeaten (isExtreme : IsFirstExtreme wanted values extreme) (isMember : value ∈ values) :
    value.compare extreme ≠ some wanted := by
  obtain ⟨_, _, _, unbeaten, _⟩ := isExtreme
  exact unbeaten value isMember

/-- A list has no more than one first extreme. -/
theorem unique (isExtreme : IsFirstExtreme wanted values extreme)
    (isOther : IsFirstExtreme wanted values other) : extreme = other := by
  obtain ⟨before, after, split, unbeaten, beaten⟩ := isExtreme
  obtain ⟨otherBefore, otherAfter, otherSplit, otherUnbeaten, otherBeaten⟩ := isOther
  rcases List.append_eq_append_iff.mp (split.symm.trans otherSplit) with
    ⟨between, rfl, behind⟩ | ⟨between, rfl, behind⟩
  · cases between with
    | nil => exact (List.cons.inj behind).1
    | cons first between =>
        obtain ⟨rfl, _⟩ := List.cons.inj behind
        obtain ⟨value, isMember, lies⟩ :=
          otherBeaten extreme (List.mem_append_right _ List.mem_cons_self)
        exact absurd lies (unbeaten value isMember)
  · cases between with
    | nil => exact (List.cons.inj behind).1.symm
    | cons first between =>
        obtain ⟨rfl, _⟩ := List.cons.inj behind
        obtain ⟨value, isMember, lies⟩ :=
          beaten other (List.mem_append_right _ List.mem_cons_self)
        exact absurd lies (otherUnbeaten value isMember)

end IsFirstExtreme

section Picking

variable {values : Value → Prop} (order : IsOrder values) {wanted : Ordering}
  (strict : wanted ≠ .eq) {seen rest : List Value} {current candidate : Value}

include order strict

/-- Of two ordered values at most one lies beyond the other. -/
theorem not_lies_beyond_of_lies {left right : Value} (isLeft : values left)
    (isRight : values right) (lies : left.compare right = some wanted) :
    right.compare left ≠ some wanted := by
  rw [order.swap isLeft isRight lies]
  cases wanted with
  | eq => exact absurd rfl strict
  | lt | gt => nofun

/-- The first extreme of a list and a value behind it is picked from the one of the list and that
value. -/
theorem IsFirstExtreme.pick (isExtreme : IsFirstExtreme wanted seen current)
    (seenOrdered : ∀ value ∈ seen, values value) (isCandidate : values candidate) :
    IsFirstExtreme wanted (seen ++ [candidate]) (pick wanted current candidate) := by
  obtain ⟨before, after, split, unbeaten, beaten⟩ := isExtreme
  have isCurrent : values current := by
    apply seenOrdered
    rw [split]
    exact List.mem_append_right _ List.mem_cons_self
  unfold SqlScalar.pick
  split
  · rename_i lies
    -- What no value lies beyond is not beyond it either, so the candidate is beyond all of them.
    refine ⟨seen, [], rfl, fun value isMember => ?_, fun earlier isEarlier => ?_⟩
    · rcases List.mem_append.mp isMember with isSeen | isLast
      · intro beyond
        refine unbeaten value isSeen (order.beyond strict (seenOrdered value isSeen) isCandidate
          isCurrent beyond ?_)
        exact not_lies_beyond_of_lies order strict isCandidate isCurrent lies
      · rw [List.mem_singleton.mp isLast, order.refl isCandidate, ne_eq, Option.some.injEq]
        exact strict.symm
    · refine ⟨candidate, List.mem_append_right _ List.mem_cons_self, ?_⟩
      exact order.beyond strict isCandidate isCurrent (seenOrdered earlier isEarlier) lies
        (unbeaten earlier isEarlier)
  · rename_i doesNot
    refine ⟨before, after ++ [candidate], ?_, fun value isMember => ?_, fun earlier isEarlier => ?_⟩
    · rw [split, List.append_assoc, List.cons_append]
    · rcases List.mem_append.mp isMember with isSeen | isLast
      · exact unbeaten value isSeen
      · rw [List.mem_singleton.mp isLast]
        exact doesNot
    · obtain ⟨value, isSeen, lies⟩ := beaten earlier isEarlier
      exact ⟨value, List.mem_append_left _ isSeen, lies⟩

/-- The first extreme of a list is kept up to date over the values behind it. -/
theorem IsFirstExtreme.foldl_pick (isExtreme : IsFirstExtreme wanted seen current)
    (ordered : ∀ value ∈ seen ++ rest, values value) :
    IsFirstExtreme wanted (seen ++ rest) (rest.foldl (SqlScalar.pick wanted) current) := by
  induction rest generalizing seen current with
  | nil => rwa [List.append_nil]
  | cons candidate rest ih =>
      have split : seen ++ candidate :: rest = (seen ++ [candidate]) ++ rest := List.append_cons ..
      rw [split] at ordered ⊢
      obtain ⟨seenOrdered, isCandidate⟩ :=
        List.forall_mem_append.mp (List.forall_mem_append.mp ordered).1
      refine ih (isExtreme.pick order strict seenOrdered ?_) ordered
      exact isCandidate candidate List.mem_cons_self

/-- What is picked from a list of ordered values is the first extreme of it. -/
theorem isFirstExtreme_foldl_pick {first : Value}
    (ordered : ∀ value ∈ first :: rest, values value) :
    IsFirstExtreme wanted (first :: rest) (rest.foldl (pick wanted) first) := by
  have isFirst : IsFirstExtreme wanted [first] first := by
    refine ⟨[], [], rfl, fun value isMember => ?_, List.forall_mem_nil _⟩
    rw [List.mem_singleton.mp isMember, order.refl (ordered first List.mem_cons_self), ne_eq,
      Option.some.injEq]
    exact strict.symm
  exact isFirst.foldl_pick order strict ordered

end Picking

end Value

namespace AggregateKind

variable {kind : AggregateKind} {wanted : Ordering} (finds : kind.wanted? = some wanted)
  (resolved : Option DataType)

include finds

theorem strict_of_wanted? : wanted ≠ .eq := by
  cases kind <;> cases finds <;> nofun

theorem outputType_of_wanted? (type : DataType) : kind.outputType type = .ok type := by
  cases kind <;> cases finds <;> rfl

theorem value_of_wanted? (state : AggregateState) :
    kind.value state = state.accumulated.getD .null := by
  cases kind <;> cases finds <;> rfl

/-- An aggregate that looks for an extreme holds what it picks from the values one by one. -/
theorem accumulates_of_wanted? (values : List Value) :
    kind.Accumulates resolved none values (Value.pickAll? wanted values) := by
  cases kind <;> cases finds <;> rfl

end AggregateKind

namespace Expr

variable {kind : AggregateKind} {wanted : Ordering} {reference : ColumnRef}
  {contexts laterContexts : List Context} {inputs laterInputs : List Value} {type : DataType}

/-- An aggregate that looks for an extreme takes all rows in which its column is `NULL` or of its
type, and then is what it picks from the values other than `NULL`. -/
theorem feedAll_of_wanted? (finds : kind.wanted? = some wanted)
    (supplies : List.Forall₂ reference.Supplies contexts inputs) :
    ∃ fed, (aggregate kind (column reference) (some type) .start).feedAll contexts = .ok fed ∧
      ∀ last, fed.evaluate last =
        .ok ((Value.pickAll? wanted (Value.nonNulls inputs)).getD .null) := by
  have accumulates := AggregateKind.accumulates_of_wanted? finds (some type)
  refine ⟨_, feedAll_column supplies (accumulates _), fun last => ?_⟩
  exact congrArg Except.ok (AggregateKind.value_of_wanted? finds _)

/-- What is picked from the values of a column is their extreme. -/
theorem isExtremeOf_pickAll? (finds : kind.wanted? = some wanted)
    (ordered : reference.type.isOrdered = true)
    (supplies : List.Forall₂ reference.Supplies contexts inputs) :
    Value.IsExtremeOf wanted inputs
      ((Value.pickAll? wanted (Value.nonNulls inputs)).getD .null) := by
  have typed := ColumnRef.type_of_supplies supplies
  have order := Value.isOrder_of_isOrdered ordered
  constructor
  · intro empty
    rw [empty]
    rfl
  · intro nonempty
    obtain ⟨first, rest, isList⟩ := List.exists_cons_of_ne_nil nonempty
    rw [isList] at typed ⊢
    exact Value.isFirstExtreme_foldl_pick order (AggregateKind.strict_of_wanted? finds) typed

/-- A minimum or maximum over a column of ordered values can be resolved, and takes all rows in
which the column is `NULL` or of its type. It comes to the first of its values that none of them
lies beyond, or to `NULL` if there are no values. Once it is reset, it comes to that of the later
rows alone. -/
theorem extreme_of_column (mode : Mode) (finds : kind.wanted? = some wanted)
    (ordered : reference.type.isOrdered = true)
    (supplies : List.Forall₂ reference.Supplies contexts inputs)
    (laterSupplies : List.Forall₂ reference.Supplies laterContexts laterInputs) :
    ∃ (fresh fed : Expr) (extreme laterExtreme : Value),
      (aggregated kind (column reference)).resolve mode = .ok fresh ∧
      fresh.feedAll contexts = .ok fed ∧ (∀ last, fed.evaluate last = .ok extreme) ∧
      Value.IsExtremeOf wanted inputs extreme ∧
      fed.reset.ComesTo laterContexts laterExtreme ∧
      Value.IsExtremeOf wanted laterInputs laterExtreme := by
  have typed := DataType.ne_unknown_of_isOrdered ordered
  obtain ⟨fed, feeds, evaluates⟩ := feedAll_of_wanted? finds supplies
  refine ⟨_, fed, _, _, resolve_aggregated_column mode typed
    (AggregateKind.outputType_of_wanted? finds _), feeds, evaluates,
    isExtremeOf_pickAll? finds ordered supplies, ?_,
    isExtremeOf_pickAll? finds ordered laterSupplies⟩
  rw [reset_of_feedAll feeds]
  exact feedAll_of_wanted? finds laterSupplies

/-- Two decimal numbers are equal in value, so the earlier one is the maximum. Then the aggregate is
reset, and all that counts is the row behind. -/
theorem maximum_of_equal_decimals :
    let amount : ColumnRef := ⟨none, "D", some ⟨"T", ⟨0, .decimal⟩, 0⟩, true⟩
    let holding (value : Value) : Context := ⟨.regular, [value], []⟩
    let short : Value := .decimal ⟨false, 15, 1, by decide, by decide⟩
    let long : Value := .decimal ⟨false, 150, 2, by decide, by decide⟩
    let zero : Value := .decimal Decimal.zero
    short.compare long = some .eq ∧
      ∃ fresh fed : Expr, (aggregated .max (column amount)).resolve .regular = .ok fresh ∧
        fresh.feedAll [holding zero, holding .null, holding long, holding short] = .ok fed ∧
        (∀ last, fed.evaluate last = .ok long) ∧ fed.reset.ComesTo [holding zero] zero := by
  intro amount holding short long zero
  have supplies : List.Forall₂ amount.Supplies
      [holding zero, holding .null, holding long, holding short] [zero, .null, long, short] :=
    .cons ⟨rfl, .inr rfl⟩ <| .cons ⟨rfl, .inl rfl⟩ <| .cons ⟨rfl, .inr rfl⟩ <|
      .cons ⟨rfl, .inr rfl⟩ .nil
  have laterSupplies : List.Forall₂ amount.Supplies [holding zero] [zero] :=
    .cons ⟨rfl, .inr rfl⟩ .nil
  have finds : AggregateKind.max.wanted? = some .gt := rfl
  obtain ⟨fresh, fed, maximum, laterMaximum, resolves, feeds, evaluates, isMaximum, comesTo,
    isLaterMaximum⟩ := extreme_of_column .regular finds rfl supplies laterSupplies
  have longIsFirst : Value.IsFirstExtreme .gt [zero, long, short] long :=
    ⟨[zero], [short], rfl, by decide, by decide⟩
  have zeroIsFirst : Value.IsFirstExtreme .gt [zero] zero := ⟨[], [], rfl, by decide, by decide⟩
  obtain rfl := (isMaximum.first nofun).unique longIsFirst
  obtain rfl := (isLaterMaximum.first nofun).unique zeroIsFirst
  exact ⟨rfl, fresh, fed, resolves, feeds, evaluates, comesTo⟩

end Expr

end SqlScalar
