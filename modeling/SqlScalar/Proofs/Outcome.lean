import SqlScalar.Failure

/-! # Outcomes in sequence

What is known of a computation in several steps when its outcome is known: if it succeeds,
so does every step, and if it fails, one of the steps does. Failures are told apart by what
they depend on: how an expression is built, typed and bound, or the values at hand.
-/

namespace SqlScalar

section Bind

variable {First Second : Type} {first : Outcome First} {next : First → Outcome Second}

/-- After a step that has succeeded, the next one decides. -/
theorem ok_bind (middle : First) (next : First → Outcome Second) :
    (Except.ok middle >>= next) = next middle := rfl

/-- Two steps succeed when the first one does and the second one does with its result. -/
theorem bind_eq_ok {result : Second} :
    (first >>= next) = .ok result ↔ ∃ middle, first = .ok middle ∧ next middle = .ok result := by
  cases first with
  | error failure =>
      constructor
      · intro succeeds; cases succeeds
      · rintro ⟨_, succeeds, _⟩; cases succeeds
  | ok middle =>
      constructor
      · intro succeeds; exact ⟨middle, rfl, succeeds⟩
      · rintro ⟨_, same, succeeds⟩; cases same; exact succeeds

/-- Two steps fail when the first one does, or the second one with its result. -/
theorem bind_eq_error {failure : Failure} :
    (first >>= next) = .error failure ↔
      first = .error failure ∨ ∃ middle, first = .ok middle ∧ next middle = .error failure := by
  cases first with
  | error other =>
      constructor
      · intro fails; cases fails; exact .inl rfl
      · rintro (same | ⟨_, same, _⟩)
        · cases same; rfl
        · cases same
  | ok middle =>
      constructor
      · intro fails; exact .inr ⟨middle, rfl, fails⟩
      · rintro (same | ⟨_, same, fails⟩)
        · cases same
        · cases same; exact fails

/-- Two continuations that agree on what the first step succeeds with have one outcome. -/
theorem bind_congr_of_ok {other : First → Outcome Second}
    (same : ∀ middle, first = .ok middle → next middle = other middle) :
    (first >>= next) = (first >>= other) := by
  cases first with
  | error failure => rfl
  | ok middle => exact same middle rfl

/-- Two continuations have one outcome just if they agree on what the first step succeeds with. -/
theorem bind_eq_bind_iff {other : First → Outcome Second} :
    (first >>= next) = (first >>= other) ↔
      ∀ middle, first = .ok middle → next middle = other middle := by
  refine ⟨?_, bind_congr_of_ok⟩
  rintro same middle rfl
  exact same

end Bind

/-- Failures that depend on how an expression is built, typed and bound, and not on values. -/
def Failure.isStatic : Failure → Bool
  | unsupported .. | misuse _ | untyped .. | unknownFunction _ | argumentCount ..
  | columnNotFound _ => true
  | _ => false

/-- Failures of a caller that goes against how an expression has to be used. -/
def Failure.isMisuse : Failure → Bool
  | misuse _ => true
  | _ => false

/-- Failures of what is incomplete or used before it is resolved. -/
def Failure.isUnready : Failure → Bool
  | misuse _ | argumentCount .. => true
  | _ => false

/-- An outcome that is no failure of some kind. -/
def Spares {Result : Type} (kind : Failure → Bool) (outcome : Outcome Result) : Prop :=
  ∀ failure, outcome = .error failure → kind failure = false

/-- An outcome that is no static failure. -/
abbrev Settled {Result : Type} (outcome : Outcome Result) : Prop :=
  Spares Failure.isStatic outcome

namespace Spares

variable {First Second : Type} {kind : Failure → Bool}

theorem ok (result : First) : Spares kind (.ok result : Outcome First) := by
  intro failure fails
  cases fails

theorem error {failure : Failure} (spared : kind failure = false) :
    Spares kind (.error failure : Outcome First) := by
  intro other same
  cases same
  exact spared

theorem mono {other : Failure → Bool} {outcome : Outcome First} (spares : Spares other outcome)
    (implies : ∀ failure, other failure = false → kind failure = false) : Spares kind outcome :=
  fun failure fails => implies failure (spares failure fails)

/-- Steps none of which fails in a way do not do so together. -/
theorem bind {first : Outcome First} {next : First → Outcome Second} (spares : Spares kind first)
    (sparesNext : ∀ middle, first = .ok middle → Spares kind (next middle)) :
    Spares kind (first >>= next) := by
  intro failure fails
  rcases bind_eq_error.mp fails with fails | ⟨middle, succeeds, fails⟩
  · exact spares failure fails
  · exact sparesNext middle succeeds failure fails

end Spares

theorem Settled.spares_unready {Result : Type} {outcome : Outcome Result}
    (settled : Settled outcome) : Spares Failure.isUnready outcome := by
  refine Spares.mono settled fun failure dynamic => ?_
  cases failure <;> first | rfl | cases dynamic

end SqlScalar
