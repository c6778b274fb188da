import SqlScalar.Floating.Basic
import SqlScalar.Text.Digits

/-! # Shortest digits

A number of a format is the one nearest to every real number between the midpoints to its
neighbours; the midpoints themselves belong to it if its significand is even. Of the
decimal numbers in that interval the shortest is wanted, and of those the nearest one, a
tie going to the larger.
-/

namespace SqlScalar.Floating

open Text

/-- A number as digits times a power of ten. -/
structure Scientific where
  significand : Nat
  /-- The power of ten of the last digit. -/
  exponent : Int

/-- Half the distance from a magnitude down to its neighbour, in quarters of a unit. It is
half as long as upward if the significand is the smallest one. -/
def quartersBelow (format : FloatFormat) (units : Nat) : Nat :=
  let step := format.step units
  if 1 < step ∧ units = step * 2 ^ (format.precision - 1) then step else 2 * step

/-- Whether a quotient of quarters of a unit lies in the interval of a magnitude. -/
def standsFor (format : FloatFormat) (units numerator denominator : Nat) : Bool :=
  let step := format.step units
  let low := (4 * units - quartersBelow format units) * denominator
  let high := (4 * units + 2 * step) * denominator
  if units / step % 2 = 0 then low ≤ numerator && numerator ≤ high
  else low < numerator && numerator < high

/-- The power of ten of the first digit of a magnitude other than zero. -/
def leadingExponent (format : FloatFormat) (units : Nat) : Int :=
  let shifted := units * 10 ^ format.unitBits / format.one
  (digits shifted).length - 1 - format.unitBits

/-- The decimal number with the given last place that stands for a magnitude, if there is
one: the neighbour of the magnitude on that grid which lies in the interval, the nearer one
if both do. -/
def onGrid? (format : FloatFormat) (units : Nat) (exponent : Int) : Option Nat :=
  let numerator := units * 10 ^ (-exponent).toNat
  let denominator := format.one * 10 ^ exponent.toNat
  let below := numerator / denominator
  let rest := numerator % denominator
  let scale := 10 ^ (-exponent).toNat
  let lower := standsFor format units (4 * below * denominator) scale
  let upper := standsFor format units (4 * (below + 1) * denominator) scale
  match lower, upper with
  | true, true => some (if 2 * rest < denominator then below else below + 1)
  | true, false => some below
  | false, true => some (below + 1)
  | false, false => none

/-- The first grid on which a decimal number stands for a magnitude, going to finer grids
from one with a last place `exponent`. -/
def refine (format : FloatFormat) (units : Nat) : (tries : Nat) → (exponent : Int) → Scientific
  | 0, exponent => ⟨units * 10 ^ (-exponent).toNat / format.one, exponent⟩
  | tries + 1, exponent =>
      match onGrid? format units exponent with
      | some found => ⟨found, exponent⟩
      | none => refine format units tries (exponent - 1)

/-- The number of digits that tells any two numbers of a format apart. -/
def sufficientDigits (format : FloatFormat) : Nat :=
  (digits (2 ^ format.precision)).length + 1

/-- The shortest decimal number that stands for a magnitude other than zero. -/
def shortest (format : FloatFormat) (units : Nat) : Scientific :=
  refine format units (sufficientDigits format) (leadingExponent format units)

end SqlScalar.Floating
