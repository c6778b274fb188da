import SqlScalar.Proofs.LaterUse

/-! # Rows an aggregate fails on

An aggregate fails on a row for one of two reasons. If its argument has no value there, it stays
as it was. If it is a sum that cannot take the value, it counts the value all the same and loses
what it has added up so far, so from then on it adds up the later rows alone.
-/

namespace SqlScalar

theorem AggregateKind.eq_sum_of_accumulate {kind : AggregateKind} {resolved : Option DataType}
    {sql : String} {accumulated : Option Value} {value : Value} {failure : Failure}
    (fails : kind.accumulate resolved sql accumulated value = .error failure) : kind = .sum := by
  cases kind with
  | sum => rfl
  | count | min | max => cases fails

namespace Expr

/-- How an aggregate fails on a row, and what it is left as. -/
inductive FailsOn (context : Context) (failure : Failure) : Expr → Expr → Prop
  | argument {kind : AggregateKind} {argument : Expr} {resolved : Option DataType}
      {state : AggregateState} (fails : argument.evaluate context = .error failure) :
      FailsOn context failure (.aggregate kind argument resolved state)
        (.aggregate kind argument resolved state)
  | summand {argument : Expr} {resolved : Option DataType} {state : AggregateState} {value : Value}
      (evaluates : argument.evaluate context = .ok value) (present : value.isNull = false)
      (fails : AggregateKind.sum.accumulate resolved (aggregate .sum argument resolved state).sql
        state.accumulated value = .error failure) :
      FailsOn context failure (.aggregate .sum argument resolved state)
        (.aggregate .sum argument resolved ⟨state.count + 1, none⟩)

variable {context : Context} {kind : AggregateKind} {argument : Expr}
  {resolved : Option DataType} {state : AggregateState} {failure : Failure} {left : Expr}

/-- An aggregate fails on a row in one of the listed ways, and each of them occurs. -/
theorem feed_aggregate_eq_error :
    (aggregate kind argument resolved state).feed context = ⟨left, .error failure⟩ ↔
      FailsOn context failure (aggregate kind argument resolved state) left := by
  constructor
  · intro feeds
    simp only [feed] at feeds
    split at feeds
    · rename_i fails
      cases feeds
      exact .argument fails
    · rename_i value evaluates
      unfold AggregateKind.feed at feeds
      cases present : value.isNull with
      | true =>
          rw [present] at feeds
          cases feeds
      | false =>
          rw [present] at feeds
          simp only [Bool.false_eq_true, ↓reduceIte] at feeds
          split at feeds
          · cases feeds
          · rename_i fails
            cases feeds
            obtain rfl := AggregateKind.eq_sum_of_accumulate fails
            exact .summand evaluates present fails
  · intro fails
    cases fails with
    | argument fails => simp only [feed, fails]
    | summand evaluates present fails =>
        simp only [feed, evaluates, AggregateKind.feed, present, fails, Bool.false_eq_true,
          ↓reduceIte]

section Sums

variable {other : AggregateState}

/-- What a sum has added up after a row depends on what it had added up before, and not on how
many values that were. -/
theorem feed_sum_of_accumulated (same : state.accumulated = other.accumulated) :
    ∃ fed fed' : AggregateState, fed.accumulated = fed'.accumulated ∧
      ((aggregate .sum argument resolved state).feed context).subject =
        aggregate .sum argument resolved fed ∧
      ((aggregate .sum argument resolved other).feed context).subject =
        aggregate .sum argument resolved fed' := by
  have text : (aggregate .sum argument resolved state).sql =
      (aggregate .sum argument resolved other).sql := rfl
  simp only [feed, AggregateKind.feed, same, text]
  split
  · exact ⟨state, other, same, rfl, rfl⟩
  · split
    · exact ⟨state, other, same, rfl, rfl⟩
    · split
      · exact ⟨⟨state.count + 1, _⟩, ⟨other.count + 1, _⟩, rfl, rfl, rfl⟩
      · exact ⟨⟨state.count + 1, _⟩, ⟨other.count + 1, _⟩, rfl, rfl, rfl⟩

/-- Sums that have added up the same come to the same over any rows that follow. -/
theorem evaluate_run_sum (contexts : List Context) (same : state.accumulated = other.accumulated) :
    (Use.run (aggregate .sum argument resolved state) (contexts.map .feed)).evaluate context =
      (Use.run (aggregate .sum argument resolved other) (contexts.map .feed)).evaluate context := by
  induction contexts generalizing state other with
  | nil =>
      change Except.ok (state.accumulated.getD .null) = Except.ok (other.accumulated.getD .null)
      rw [same]
  | cons row rest ih =>
      obtain ⟨fed, fed', agree, fedIs, fedIs'⟩ := feed_sum_of_accumulated same
      change (Use.run ((aggregate .sum argument resolved state).feed row).subject _).evaluate _ =
        (Use.run ((aggregate .sum argument resolved other).feed row).subject _).evaluate _
      rw [fedIs, fedIs']
      exact ih agree

end Sums

/-- A row that an aggregate fails on leaves it as it was just if its argument has no value there.
Otherwise the aggregate is a sum, which has counted the value but is left without what it has
added up: whatever rows follow, it comes to what they do alone. -/
theorem failed_row_keeps_aggregate_iff
    (fails : ((aggregate kind argument resolved state).feed context).outcome = .error failure) :
    let left := ((aggregate kind argument resolved state).feed context).subject
    (left = aggregate kind argument resolved state ↔
        argument.evaluate context = .error failure) ∧
      (argument.evaluate context ≠ .error failure →
        kind = .sum ∧ left = aggregate .sum argument resolved ⟨state.count + 1, none⟩ ∧
          ∀ (later : List Context) (last : Context),
            (Use.run left (later.map .feed)).evaluate last =
              (Use.run (aggregate .sum argument resolved .start) (later.map .feed)).evaluate
                last) := by
  intro left
  have feeds : (aggregate kind argument resolved state).feed context = ⟨left, .error failure⟩ := by
    rw [← fails]
  generalize left = left at feeds ⊢
  cases feed_aggregate_eq_error.mp feeds with
  | argument fails => exact ⟨⟨fun _ => fails, fun _ => rfl⟩, absurd fails⟩
  | summand evaluates present fails =>
      refine ⟨⟨fun same => ?_, fun noValue => ?_⟩, fun _ => ⟨rfl, rfl, fun later last => ?_⟩⟩
      · -- The value that could not be added has been counted.
        injection same with _ _ _ same
        exact absurd (congrArg AggregateState.count same) (Nat.succ_ne_self _)
      · rw [evaluates] at noValue
        cases noValue
      · exact evaluate_run_sum later rfl

theorem feed_overflowing_sum :
    let amount : ColumnRef := ⟨none, "D", some ⟨"T", ⟨0, .decimal⟩, 0⟩, true⟩
    let summed := aggregate .sum (column amount) (some .decimal)
    let largest : Decimal := ⟨false, 2 ^ (96 : Nat) - 1, 0, by decide, by decide⟩
    (summed ⟨1, some (.decimal (Decimal.ofInt64 1))⟩).feed ⟨.regular, [.decimal largest], []⟩ =
      ⟨summed ⟨2, none⟩, .error (.overflow "1 + 79228162514264337593543950335")⟩ := by
  rfl

/-- A sum that has come to one fails on the largest decimal number there is, and adds up later
rows from nothing. -/
theorem failed_row_of_overflowing_sum :
    let amount : ColumnRef := ⟨none, "D", some ⟨"T", ⟨0, .decimal⟩, 0⟩, true⟩
    let summed := aggregate .sum (column amount) (some .decimal)
    let before := summed ⟨1, some (.decimal (Decimal.ofInt64 1))⟩
    let largest : Decimal := ⟨false, 2 ^ (96 : Nat) - 1, 0, by decide, by decide⟩
    let fed := before.feed ⟨.regular, [.decimal largest], []⟩
    fed.outcome = .error (.overflow "1 + 79228162514264337593543950335") ∧
      fed.subject ≠ before ∧ ∀ (later : List Context) (last : Context),
        (Use.run fed.subject (later.map .feed)).evaluate last =
          (Use.run (summed .start) (later.map .feed)).evaluate last := by
  intro amount summed before largest fed
  have fails := congrArg Fed.outcome feed_overflowing_sum
  obtain ⟨keeps, loses⟩ := failed_row_keeps_aggregate_iff fails
  refine ⟨fails, fun same => ?_, (loses nofun).2.2⟩
  cases keeps.mp same

/-- A sum over a column that has taken the number one, and then fails on the largest decimal number
there is, is left without the one. -/
theorem sum_lost_in_overflow :
    let amount : ColumnRef := ⟨none, "D", some ⟨"T", ⟨0, .decimal⟩, 0⟩, true⟩
    let summed := aggregate .sum (column amount) (some .decimal)
    let one := Decimal.ofInt64 1
    let largest : Decimal := ⟨false, 2 ^ (96 : Nat) - 1, 0, by decide, by decide⟩
    let holding (number : Decimal) : Context := ⟨.regular, [.decimal number], []⟩
    (aggregated .sum (column amount)).resolve .regular = .ok (summed .start) ∧
      (summed .start).feed (holding one) = ⟨summed ⟨1, some (.decimal one)⟩, .ok ()⟩ ∧
      (summed ⟨1, some (.decimal one)⟩).feed (holding largest) =
        ⟨summed ⟨2, none⟩, .error (.overflow "1 + 79228162514264337593543950335")⟩ ∧
      (summed ⟨2, none⟩).evaluate (holding largest) ≠
        (summed ⟨1, some (.decimal one)⟩).evaluate (holding largest) :=
  ⟨rfl, rfl, feed_overflowing_sum, nofun⟩

end Expr

end SqlScalar
