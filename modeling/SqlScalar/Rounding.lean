import SqlScalar.Integer

/-! # Rounding quotients

The two ways in which a quotient of natural numbers is rounded to a whole number: to the
nearest one, with a tie going to the even neighbour or to the larger one.
-/

namespace SqlScalar

/-- The whole number nearest to a quotient, the even one of two. -/
def roundHalfEven (numerator denominator : Nat) : Nat :=
  let quotient := numerator / denominator
  let twice := 2 * (numerator % denominator)
  if twice < denominator then quotient
  else if denominator < twice then quotient + 1
  else quotient + quotient % 2

/-- The whole number nearest to a quotient, the larger one of two. -/
def roundHalfUp (numerator denominator : Nat) : Nat :=
  (2 * numerator + denominator) / (2 * denominator)

/-- An integer quotient rounded to the nearest integer, half away from zero. -/
def roundHalfAway (numerator : Int) (denominator : Nat) : Int :=
  if numerator < 0 then -(roundHalfUp numerator.natAbs denominator : Int)
  else roundHalfUp numerator.natAbs denominator

/-- Rounding to the nearest whole number goes up by no more than one. -/
theorem roundHalfEven_le (numerator denominator : Nat) :
    roundHalfEven numerator denominator ≤ numerator / denominator + 1 := by
  unfold roundHalfEven
  simp only
  split
  · omega
  · split <;> omega

/-- The nearest whole number is not above a quotient by more than a half. -/
theorem roundHalfEven_mul_le (numerator denominator : Nat) :
    2 * (roundHalfEven numerator denominator * denominator) ≤ 2 * numerator + denominator := by
  have split_numerator := Nat.div_add_mod numerator denominator
  rw [Nat.mul_comm] at split_numerator
  unfold roundHalfEven
  simp only
  split
  · omega
  · split
    · rw [Nat.add_mul]; omega
    · rcases Nat.mod_two_eq_zero_or_one (numerator / denominator) with even | odd
      · rw [even]; simp only [Nat.add_zero]; omega
      · rw [odd, Nat.add_mul]; omega

/-- The nearest whole number is not below a quotient by more than a half. -/
theorem le_roundHalfEven_mul (numerator : Nat) {denominator : Nat} (positive : 0 < denominator) :
    2 * numerator ≤ 2 * (roundHalfEven numerator denominator * denominator) + denominator := by
  have split_numerator := Nat.div_add_mod numerator denominator
  rw [Nat.mul_comm] at split_numerator
  unfold roundHalfEven
  simp only
  split
  · omega
  · split
    · rw [Nat.add_mul]
      have := Nat.mod_lt numerator positive
      omega
    · rcases Nat.mod_two_eq_zero_or_one (numerator / denominator) with even | odd
      · rw [even]; simp only [Nat.add_zero]; omega
      · rw [odd, Nat.add_mul]; omega

end SqlScalar
