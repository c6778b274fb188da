import SqlScalar.Expr.Size
import SqlScalar.Proofs.ConcatenationOrder
import SqlScalar.Proofs.ReadingDigits

/-! # Display sizes

The display size of an expression is meant for the text of its value. For concatenations of
constants it is large enough but for two things. Sizes are reported up to a largest one, which
longer texts share. And a decimal number has room for its digits, a point and one character more,
so that its text may be too long if it has a sign and a zero in front of its digits, or several
zeros.
-/

namespace SqlScalar

open Resolution Text

/-- The zeros that a decimal number is written with in front of its own digits. -/
def Decimal.leadingZeros (number : Decimal) : Nat :=
  number.scale + 1 - number.precision

/-- By how many characters a decimal number is written longer than its display size: by the sign
and the zeros in front of its digits but for one of them. -/
def Decimal.overhang (number : Decimal) : Nat :=
  number.negative.toNat + number.leadingZeros - 1

/-- By how many characters a value is written longer than its display size. -/
def Value.overhang : Value → Nat
  | decimal number => number.overhang
  | _ => 0

/-- Whether a size has room for a text of a given length, apart from a number of characters that
hang over. A text that is longer than any size just has the largest one. -/
structure FitsSize (length : Nat) (size : Int) (overhang : Nat) : Prop where
  nonneg : 0 ≤ size
  fits : length ≤ size + overhang ∨ size = unboundedSize ∧ unboundedSize < length

namespace FitsSize

variable {length overhang : Nat} {size : Int}

theorem of_le (short : length ≤ size) : FitsSize length size 0 := by
  constructor
  · omega
  · left
    omega

theorem of_largest (length overhang : Nat) : FitsSize length unboundedSize overhang := by
  constructor
  · decide
  · omega

theorem clamp32_of_nonneg (nonneg : 0 ≤ size) : clamp32 size = min size unboundedSize := by
  simp only [clamp32, unboundedSize, Int32.toInt_minValue, Int32.toInt_maxValue]
  omega

theorem of_beyond (beyond : unboundedSize ≤ size) : FitsSize length (clamp32 size) overhang := by
  have nonneg : 0 ≤ size := Int.le_trans (by decide) beyond
  rw [clamp32_of_nonneg nonneg, Int.min_eq_right beyond]
  exact of_largest length overhang

/-- A size that is too large to be reported is replaced by the largest one. -/
theorem clamped (nonneg : 0 ≤ size) (short : length ≤ size + overhang) :
    FitsSize length (clamp32 size) overhang := by
  rcases Int.le_total size unboundedSize with within | beyond
  · rw [clamp32_of_nonneg nonneg, Int.min_eq_left within]
    exact ⟨nonneg, .inl short⟩
  · exact of_beyond beyond

/-- A text made of two fits the sum of their sizes. -/
theorem joined {leftLength rightLength leftOverhang rightOverhang : Nat} {leftSize rightSize : Int}
    (left : FitsSize leftLength leftSize leftOverhang)
    (right : FitsSize rightLength rightSize rightOverhang)
    (short : length ≤ leftLength + rightLength) :
    FitsSize length (clamp32 (leftSize + rightSize)) (leftOverhang + rightOverhang) := by
  have leftNonneg := left.nonneg
  have rightNonneg := right.nonneg
  rcases left.fits with leftShort | ⟨leftLargest, _⟩
  · rcases right.fits with rightShort | ⟨rightLargest, _⟩
    · apply clamped
      · omega
      · omega
    · apply of_beyond
      omega
  · apply of_beyond
    omega

end FitsSize

section Digits

/-- A number below a power of ten is written with no more digits than that has zeros, and a sign. -/
theorem length_signedDigits_le {number : Int} {width : Nat} (wide : 0 < width)
    (below : number.natAbs < 10 ^ width) : (signedDigits number).length ≤ width + 1 := by
  have short : (digits number.natAbs).length ≤ width :=
    (Nat.length_toDigits_le_iff (by decide) wide).mpr below
  unfold signedDigits
  split
  · exact Nat.succ_le_succ short
  · omega

/-- Each byte takes two hexadecimal digits. -/
theorem Text.Hex.length_write (bytes : List UInt8) :
    (Hex.write bytes).length = 2 * bytes.length := by
  induction bytes with
  | nil => rfl
  | cons byte bytes ih =>
      have first : (Hex.ofByte byte).length = 2 := rfl
      rw [Hex.write, List.flatMap_cons, List.length_append, first, List.length_cons]
      unfold Hex.write at ih
      omega

namespace Decimal

/-- A number with a point is written with its own digits or the zeros it needs, and the point. -/
theorem length_pointed (mantissa scale : Nat) :
    (pointed mantissa scale).length =
      max (scale + 1) (digits mantissa).length + if scale = 0 then 0 else 1 := by
  have places := length_padZeros (scale + 1) (digits mantissa)
  unfold pointed
  simp only
  split
  · rw [places]
    rfl
  · rw [List.length_append, List.length_cons, List.length_take, List.length_drop, places]
    omega

variable (number : Decimal)

/-- A decimal number is written with a sign, zeros, its digits and a point, as far as it has
them. -/
theorem length_text :
    number.text.length = number.negative.toNat + number.leadingZeros + number.precision +
      if number.scale = 0 then 0 else 1 := by
  have magnitude := length_pointed number.mantissa number.scale
  unfold text leadingZeros precision
  cases number.negative with
  | true =>
      simp only [↓reduceIte, List.length_cons, magnitude, Bool.toNat_true]
      omega
  | false =>
      simp only [Bool.false_eq_true, ↓reduceIte, magnitude, Bool.toNat_false]
      omega

/-- The text of a decimal number has room in its digits and two characters, but for what hangs
over. -/
theorem length_text_le : number.text.length ≤ number.precision + 2 + number.overhang := by
  have sign := Bool.toNat_le number.negative
  rw [length_text, overhang, leadingZeros]
  split
  · omega
  · omega

end Decimal

end Digits

/-- The types whose values have a text of their own digits, characters or bytes, or one that all
values of the type have room for. -/
def DataType.isMeasured : DataType → Bool
  | null | boolean | integer | bigint | decimal | varchar | varbinary => true
  | _ => false

namespace Value

theorem length_display (value : Value) : value.display.length = value.text.length :=
  String.length_ofList

/-- The text of a constant fits its display size, but for what a decimal number is longer. -/
theorem fitsSize_display {value : Value} (measured : value.type.isMeasured = true) :
    FitsSize value.display.length value.displaySize value.overhang := by
  rw [length_display]
  cases value with
  | null => exact FitsSize.of_le (by decide)
  | boolean truth => cases truth <;> exact FitsSize.of_le (by decide)
  | integer number =>
      have lower := number.le_toInt
      have upper := number.toInt_lt
      have short : (signedDigits number.toInt).length ≤ 10 + 1 :=
        length_signedDigits_le (by decide) (by omega)
      exact FitsSize.of_le (Int.ofNat_le.mpr short)
  | bigint number =>
      have lower := number.le_toInt
      have upper := number.toInt_lt
      have short : (signedDigits number.toInt).length ≤ 19 + 1 :=
        length_signedDigits_le (by decide) (by omega)
      exact FitsSize.of_le (Int.ofNat_le.mpr short)
  | decimal number =>
      exact FitsSize.clamped (by omega) (by exact_mod_cast number.length_text_le)
  | varchar text =>
      have exact : (text.toList.length : Int) ≤ text.length + (0 : Nat) := by
        rw [String.length_toList]
        omega
      exact FitsSize.clamped (by omega) exact
  | varbinary bytes =>
      have exact : ((Hex.write bytes).length : Int) ≤ 2 * bytes.length + (0 : Nat) := by
        rw [Hex.length_write]
        omega
      exact FitsSize.clamped (by omega) exact
  | real _ | double _ | time _ | date _ | timestamp _ => cases measured

theorem length_display_ofShown (shown : Option String) :
    (ofShown shown).display.length = (shown.getD "NULL").length := by
  cases shown with
  | none => rfl
  | some text => rw [ofShown, display_varchar, Option.getD_some]

/-- A value is shown with as many characters as its text in a concatenation has. -/
theorem length_display_eq (value : Value) :
    value.display.length = (value.shown?.getD "NULL").length := by
  unfold shown?
  cases value <;> rfl

/-- A concatenation is no longer than its operands one after the other, each missing one being
written as a word. -/
theorem length_joined_le (absorbs : Bool) (left right : Value) :
    (joined absorbs left right).display.length ≤ left.display.length + right.display.length := by
  rw [joined, length_display_ofShown, length_display_eq left, length_display_eq right]
  cases left.shown? with
  | none =>
      cases absorbs with
      | true => exact Nat.le_add_right _ _
      | false => exact Nat.le_add_left _ _
  | some left =>
      cases right.shown? with
      | none =>
          cases absorbs with
          | true => exact Nat.le_add_left _ _
          | false => exact Nat.le_add_right _ _
      | some right => exact Nat.le_of_eq (String.length_append ..)

end Value

/-- Constants joined by concatenation, in any nesting. -/
inductive Concatenation where
  | constant (value : Value) (measured : value.type.isMeasured = true)
  | joined (left right : Concatenation)

namespace Concatenation

/-- The expression that has been built for a concatenation. -/
def expr : Concatenation → Expr
  | constant value _ => .literal value
  | joined left right => .concat left.expr right.expr

/-- By how many characters the constants of a concatenation are longer than their sizes. -/
def overhang : Concatenation → Nat
  | constant value _ => value.overhang
  | joined left right => left.overhang + right.overhang

/-- The value of a concatenation under a mode. -/
def value (mode : Mode) : Concatenation → Value
  | constant value _ => value
  | joined left right => .joined mode.nullConcatIsNull (left.value mode) (right.value mode)

variable (mode : Mode) (tree : Concatenation)

theorem resolve_expr : tree.expr.resolve mode = .ok (.literal (tree.value mode)) := by
  induction tree with
  | constant value measured => rfl
  | joined left right leftIs rightIs =>
      rw [expr, resolve_concat, leftIs, rightIs]
      rfl

/-- The value of a concatenation fits the display size before it is resolved, but for what hangs
over. -/
theorem fitsSize_value :
    FitsSize (tree.value mode).display.length tree.expr.displaySize tree.overhang := by
  induction tree with
  | constant value measured => exact Value.fitsSize_display measured
  | joined left right leftFits rightFits =>
      exact leftFits.joined rightFits
        (Value.length_joined_le mode.nullConcatIsNull (left.value mode) (right.value mode))

end Concatenation

/-- A concatenation of constants is resolved to a value whose text has room in the display size of
the expression, apart from what its decimal numbers are longer than their own sizes. -/
theorem displaySize_of_concatenation (mode : Mode) (tree : Concatenation) :
    ∃ value, tree.expr.resolve mode = .ok (.literal value) ∧
      FitsSize value.display.length tree.expr.displaySize tree.overhang :=
  ⟨tree.value mode, tree.resolve_expr mode, tree.fitsSize_value mode⟩

example :
    let half : Value := .decimal ⟨true, 5, 1, by decide, by decide⟩
    let tree : Concatenation := .joined (.constant half rfl) (.constant (.varchar "x") rfl)
    tree.expr.displaySize = 4 ∧ tree.overhang = 1 ∧ tree.value .regular = .varchar "-0.5x" := by
  decide

/-- One thousandth is written with more characters than are reserved for it, and a text that is
longer than the largest size has more than that. -/
theorem not_displaySize_of_thousandth :
    let thousandth : Value := .decimal ⟨false, 1, 3, by decide, by decide⟩
    let long : String := .ofList (List.replicate 2147483648 ' ')
    ((Expr.concat (.literal thousandth) (.string "")).resolve .regular =
        .ok (.literal (.varchar "0.001")) ∧
      (Expr.concat (.literal thousandth) (.string "")).displaySize <
        (Value.varchar "0.001").display.length) ∧
    (Expr.string long).resolve .regular = .ok (.literal (.varchar long)) ∧
      (Expr.string long).displaySize < (Value.varchar long).display.length := by
  intro thousandth long
  have written : Value.joined true thousandth (.varchar "") = .varchar "0.001" := by decide
  have length : long.length = 2147483648 := by
    rw [String.length_ofList, List.length_replicate]
  refine ⟨⟨?_, by decide⟩, rfl, ?_⟩
  · rw [resolve_concat]
    exact congrArg (Except.ok ∘ Expr.literal) written
  · rw [Value.display_varchar, length]
    change clamp32 long.length < _
    rw [length]
    decide

end SqlScalar
