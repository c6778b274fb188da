/-! # Integers of a fixed width

`INTEGER` and `BIGINT` values are integers of 32 and 64 bits. Results are computed as
integers of any size and then narrowed, so nothing wraps around. Places in a sequence are
words of 64 bits, and counting them does wrap around, as it does where additions are not
checked for overflow. Powers are those of the core library, also where another library
offers powers of its own.
-/

namespace SqlScalar

instance (priority := 2000) corePow {Base : Type} [NatPow Base] : Pow Base Nat :=
  instPowNat

/-- A place in a sequence, counted from zero by a word of 64 bits. -/
abbrev Index := UInt64

/-- The number of a place counted from one. Behind the largest word comes zero, so that is
the number of the last place of all. -/
def Index.number (index : Index) : Nat :=
  (index + 1).toNat

/-- An integer as one of 32 bits, if it fits. -/
def narrow32? (number : Int) : Option Int32 :=
  if inRange : Int32.minValue.toInt ≤ number ∧ number ≤ Int32.maxValue.toInt then
    some (Int32.ofIntLE number inRange.1 inRange.2)
  else none

/-- An integer as one of 64 bits, if it fits. -/
def narrow64? (number : Int) : Option Int64 :=
  if inRange : Int64.minValue.toInt ≤ number ∧ number ≤ Int64.maxValue.toInt then
    some (Int64.ofIntLE number inRange.1 inRange.2)
  else none

/-- The integer of 32 bits that is nearest to an integer. -/
def clamp32 (number : Int) : Int :=
  max Int32.minValue.toInt (min number Int32.maxValue.toInt)

/-- The integer of 64 bits that is nearest to an integer. -/
def clamp64 (number : Int) : Int :=
  max Int64.minValue.toInt (min number Int64.maxValue.toInt)

/-- An integer is narrowed to 32 bits just to itself. -/
theorem narrow32?_eq_some {number : Int} {narrow : Int32} :
    narrow32? number = some narrow ↔ narrow.toInt = number := by
  unfold narrow32?
  constructor
  · intro fits
    split at fits
    · cases fits
      exact Int32.toInt_ofIntLE
    · cases fits
  · rintro rfl
    rw [dif_pos ⟨narrow.minValue_le_toInt, narrow.toInt_le⟩, Int32.ofIntLE_toInt]

/-- An integer is narrowed to 64 bits just to itself. -/
theorem narrow64?_eq_some {number : Int} {narrow : Int64} :
    narrow64? number = some narrow ↔ narrow.toInt = number := by
  unfold narrow64?
  constructor
  · intro fits
    split at fits
    · cases fits
      exact Int64.toInt_ofIntLE
    · cases fits
  · rintro rfl
    rw [dif_pos ⟨narrow.minValue_le_toInt, narrow.toInt_le⟩, Int64.ofIntLE_toInt]

/-- The number of a place is the next whole number, around the end of a word of 64 bits. -/
theorem Index.number_eq (index : Index) : index.number = (index.toNat + 1) % 2 ^ (64 : Nat) :=
  UInt64.toNat_add index 1

end SqlScalar
