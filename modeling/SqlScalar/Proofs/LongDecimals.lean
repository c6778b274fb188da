import SqlScalar.Proofs.ReadingDecimals
import SqlScalar.Proofs.RoundedDecimals

/-! # Decimal numbers with too many digits

A text may have more digits than a decimal number. Reading then stops behind the last digit behind
the point there is room for, and rounds by the digit that follows. What is read is rounded again
when it becomes an integer, so it matters whether the digits that are kept are just short of a half.
-/

namespace SqlScalar

section Numbers

namespace Text

variable {run : List Char}

theorem numberOf_append (left right : List Char) :
    numberOf (left ++ right) = numberOf left * 10 ^ right.length + numberOf right := by
  unfold numberOf
  rw [Nat.ofDigitChars_append, Nat.ofDigitChars_eq_ofDigitChars_zero, Nat.mul_comm]

theorem numberOf_cons (first : Char) (rest : List Char) :
    numberOf (first :: rest) = digitValue first * 10 ^ rest.length + numberOf rest := by
  have single : numberOf [first] = digitValue first := Nat.zero_add _
  rw [← List.singleton_append, numberOf_append, single]

theorem digitValue_lt {char : Char} (isDigit : char.isDigit = true) : digitValue char < 10 := by
  have code : 48 ≤ char.toNat ∧ char.toNat ≤ 57 := by
    simpa [Char.isDigit, UInt32.le_iff_toNat_le] using isDigit
  change char.toNat - 48 < 10
  omega

/-- Digits stand for less than a power of ten with so many zeros. -/
theorem AllDigits.numberOf_lt (digits : AllDigits run) : numberOf run < 10 ^ run.length := by
  induction run with
  | nil => decide
  | cons first run ih =>
      obtain ⟨isDigit, restDigits⟩ := List.forall_mem_cons.mp digits
      have below := ih restDigits
      have value := digitValue_lt isDigit
      rw [numberOf_cons, List.length_cons, Nat.pow_succ]
      calc digitValue first * 10 ^ run.length + numberOf run
          < digitValue first * 10 ^ run.length + 10 ^ run.length := by omega
        _ = (digitValue first + 1) * 10 ^ run.length := (Nat.succ_mul _ _).symm
        _ ≤ 10 * 10 ^ run.length := Nat.mul_le_mul_right _ value
        _ = 10 ^ run.length * 10 := Nat.mul_comm _ _

/-- Digits are half of their number of places or more just if the first of them is five or more. -/
theorem AllDigits.twice_numberOf_div {first : Char} (digits : AllDigits (first :: run)) :
    2 * numberOf (first :: run) / 10 ^ (run.length + 1) =
      if 5 ≤ digitValue first then 1 else 0 := by
  obtain ⟨isDigit, restDigits⟩ := List.forall_mem_cons.mp digits
  have value := digitValue_lt isDigit
  have below := AllDigits.numberOf_lt restDigits
  have split : 2 * numberOf (first :: run) =
      2 * numberOf run + 10 ^ run.length * (2 * digitValue first) := by
    rw [numberOf_cons, Nat.mul_add, Nat.add_comm, Nat.mul_comm (digitValue first),
      Nat.mul_left_comm]
  have carry : 2 * numberOf run / 10 ^ run.length < 2 := Nat.div_lt_of_lt_mul (by omega)
  rw [Nat.pow_succ, ← Nat.div_div_eq_div_mul, split,
    Nat.add_mul_div_left _ _ (Nat.pow_pos (by decide))]
  generalize 2 * numberOf run / 10 ^ run.length = carried at carry
  split <;> omega

end Text

/-- A whole number and a part are rounded by that part. -/
theorem roundHalfUp_part (whole : Nat) {part base : Nat} (positive : 0 < base)
    (inside : part ≤ base) :
    roundHalfUp (whole * base + part) base = if base ≤ 2 * part then whole + 1 else whole := by
  have split : 2 * (whole * base + part) + base = 2 * part + base + 2 * base * whole := by
    rw [Nat.mul_assoc, Nat.mul_comm base]
    omega
  rw [roundHalfUp, split, Nat.add_mul_div_left _ _ (by omega)]
  by_cases half : base ≤ 2 * part
  · have once : (2 * part + base) / (2 * base) = 1 :=
      Nat.div_eq_of_lt_le (by omega) (by omega)
    rw [once, if_pos half, Nat.add_comm]
  · rw [Nat.div_eq_of_lt (by omega), if_neg half, Nat.zero_add]

end Numbers

namespace Decimal

open Text

section Reading

variable {whole front rest : List Char} {next : Char} {mantissa scale : Nat}

/-- Whether reading digits around a point keeps some of those behind the point, and has no room for
the next one. -/
structure StopsAt (whole front : List Char) (next : Char) : Prop where
  room : front.length ≤ maxScale
  small : numberOf (whole ++ front) < mantissaLimit
  full : front.length = maxScale ∨ mantissaLimit ≤ numberOf (whole ++ front ++ [next])

/-- The digits behind a point are all kept, or reading stops at one of them. -/
theorem fits_or_stopsAt (rest : List Char) (room : front.length ≤ maxScale)
    (small : numberOf (whole ++ front) < mantissaLimit) :
    ((front ++ rest).length ≤ maxScale ∧ numberOf (whole ++ (front ++ rest)) < mantissaLimit) ∨
      ∃ kept next dropped, front ++ rest = kept ++ next :: dropped ∧ StopsAt whole kept next := by
  induction rest generalizing front with
  | nil =>
      rw [List.append_nil]
      exact .inl ⟨room, small⟩
  | cons next rest ih =>
      by_cases full : front.length = maxScale ∨ mantissaLimit ≤ numberOf (whole ++ front ++ [next])
      · exact .inr ⟨front, next, rest, rfl, room, small, full⟩
      · obtain ⟨below, fits⟩ := not_or.mp full
        have longer : (front ++ [next]).length ≤ maxScale := by
          rw [List.length_append, List.length_singleton]
          omega
        rw [Nat.not_le, List.append_assoc] at fits
        have behind := ih longer fits
        rwa [List.append_assoc, List.singleton_append] at behind

/-- Digits behind those that are kept are rounded away by the first of them. -/
theorem roundOff?_digits (read : Digits) (digits : AllDigits (next :: rest)) :
    read.roundOff? (next :: rest) = read.roundBy? (digitValue next) := by
  have isDigit := digits next List.mem_cons_self
  have noLine : (next == '_') = false := by
    rw [beq_eq_false_iff_ne]
    rintro rfl
    cases isDigit
  have onlyDigits : (next :: rest).all (fun char => char.isDigit || char == '_') = true := by
    refine List.all_eq_true.mpr fun char isMember => ?_
    rw [digits char isMember, Bool.true_or]
  have decides : read.decidingDigit (next :: rest) = digitValue next := by
    unfold Digits.decidingDigit
    simp only [List.dropWhile_cons, noLine, Bool.false_eq_true, ↓reduceIte, ite_self]
    rw [if_neg (beq_eq_false_iff_ne.mp noLine)]
  rw [Digits.roundOff?, if_pos onlyDigits, decides]

/-- A digit that there is no room for rounds what has been read. -/
theorem readDigits_full (digits : AllDigits (next :: rest))
    (full : maxScale ≤ scale ∨ mantissaLimit ≤ 10 * mantissa + digitValue next) :
    readDigits? true true ⟨mantissa, scale⟩ (next :: rest) =
      Digits.roundBy? ⟨mantissa, scale⟩ (digitValue next) := by
  have isDigit := digits next List.mem_cons_self
  rw [readDigits?, roundOff?_digits _ digits]
  by_cases noPlace : maxScale ≤ scale
  · rw [if_pos noPlace]
  · rw [if_neg noPlace, if_pos isDigit]
    have large := full.resolve_left noPlace
    simp only [if_neg (Nat.not_lt.mpr large), ↓reduceIte]

/-- Where reading stops, the number that has been read is rounded by the next digit. -/
theorem readDigits_stopsAt (wholeDigits : AllDigits whole) (some : whole ≠ [])
    (digits : AllDigits (front ++ next :: rest)) (stops : StopsAt whole front next) :
    readDigits? false false ⟨0, 0⟩ (whole ++ '.' :: (front ++ next :: rest)) =
      Digits.roundBy? ⟨numberOf (whole ++ front), front.length⟩ (digitValue next) := by
  obtain ⟨frontDigits, restDigits⟩ := List.forall_mem_append.mp digits
  obtain ⟨room, small, full⟩ := stops
  have full : maxScale ≤ front.length ∨
      mantissaLimit ≤ 10 * numberOf (whole ++ front) + digitValue next := by
    refine full.imp (fun isFull => Nat.le_of_eq isFull.symm) fun large => ?_
    rwa [numberOf, Nat.ofDigitChars_append] at large
  rw [numberOf, Nat.ofDigitChars_append] at small
  have within := Nat.lt_of_le_of_lt (le_ofDigitChars front _) small
  have kept : readDigits? true true ⟨Nat.ofDigitChars 10 whole 0, 0⟩ (front ++ next :: rest) =
      readDigits? true true ⟨Nat.ofDigitChars 10 front (Nat.ofDigitChars 10 whole 0),
        0 + front.length⟩ (next :: rest) :=
    readDigits_places frontDigits (by rwa [Nat.zero_add]) small
  rw [readDigits_whole wholeDigits some within, readDigits_point (by decide : 0 < maxScale), kept,
    Nat.zero_add, ← Nat.ofDigitChars_append]
  exact readDigits_full restDigits full

/-- Digits without a point that do not fit a mantissa cannot be read. -/
theorem readDigits_large {started : Bool} (digits : AllDigits whole)
    (below : mantissa < mantissaLimit)
    (large : mantissaLimit ≤ Nat.ofDigitChars 10 whole mantissa) :
    readDigits? false started ⟨mantissa, 0⟩ (whole ++ rest) = none := by
  induction whole generalizing mantissa started with
  | nil => exact absurd below (Nat.not_lt.mpr large)
  | cons first whole ih =>
      rw [Nat.ofDigitChars_cons] at large
      obtain ⟨isDigit, restDigits⟩ := List.forall_mem_cons.mp digits
      by_cases small : 10 * mantissa + digitValue first < mantissaLimit
      · rw [List.cons_append, readDigits_digit isDigit (by decide : 0 < maxScale) small]
        exact ih restDigits small large
      · have room : ¬ maxScale ≤ 0 := by decide
        rw [List.cons_append, readDigits?, if_neg room, if_pos isDigit]
        simp only [if_neg small, Bool.false_eq_true, ↓reduceIte]

end Reading

section Rounding

variable {read rounded : Digits} {digit : Nat}

/-- Whether the digits behind the point that have been read are a half but for one in the last
place: a four and nines. -/
def Digits.IsShortOfHalf (read : Digits) : Prop :=
  2 * (read.mantissa % 10 ^ read.scale + 1) = 10 ^ read.scale

/-- The largest mantissa is not just short of a half, wherever its point may be. -/
theorem largest_not_short :
    ∀ scale ≤ maxScale, 2 * ((mantissaLimit - 1) % 10 ^ scale + 1) ≠ 10 ^ scale := by
  decide

/-- The last digit of the largest mantissa does not matter for the integer next to it. -/
theorem round_largest : ∀ scale < maxScale,
    roundHalfUp ((mantissaLimit - 1 + 5) / 10) (10 ^ scale) =
      if 10 ^ (scale + 1) ≤ 2 * ((mantissaLimit - 1) % 10 ^ (scale + 1)) + 1 then
        (mantissaLimit - 1) / 10 ^ (scale + 1) + 1
      else (mantissaLimit - 1) / 10 ^ (scale + 1) := by
  decide

/-- The last digits of a mantissa are rounded away by whether they are a half or more. -/
theorem roundHalfUp_mantissa (mantissa scale : Nat) :
    roundHalfUp mantissa (10 ^ scale) =
      if 10 ^ scale ≤ 2 * (mantissa % 10 ^ scale) then mantissa / 10 ^ scale + 1
      else mantissa / 10 ^ scale := by
  have power := ten_pow_pos scale
  have split := roundHalfUp_part (mantissa / 10 ^ scale) power
    (Nat.le_of_lt (Nat.mod_lt mantissa power))
  rwa [Nat.mul_comm, Nat.div_add_mod] at split

/-- One more in the last place of a mantissa may make up a half, or the whole one that a half is
rounded to. -/
theorem roundHalfUp_succ (mantissa scale : Nat) :
    roundHalfUp (mantissa + 1) (10 ^ scale) =
      if 10 ^ scale ≤ 2 * (mantissa % 10 ^ scale + 1) then mantissa / 10 ^ scale + 1
      else mantissa / 10 ^ scale := by
  have power := ten_pow_pos scale
  have split := roundHalfUp_part (mantissa / 10 ^ scale) power (Nat.mod_lt mantissa power)
  rwa [Nat.succ_eq_add_one, ← Nat.add_assoc, Nat.mul_comm, Nat.div_add_mod] at split

/-- Rounding to the last place and then to an integer comes to the same as rounding once, unless
it makes up a half. -/
theorem roundHalfUp_roundBy (small : read.mantissa < mantissaLimit) (room : read.scale ≤ maxScale)
    (exactly : ¬ (read.IsShortOfHalf ∧ 5 ≤ digit)) (rounds : read.roundBy? digit = some rounded) :
    roundHalfUp rounded.mantissa (10 ^ rounded.scale) =
      if 10 ^ read.scale ≤ 2 * (read.mantissa % 10 ^ read.scale) + (if 5 ≤ digit then 1 else 0) then
        read.mantissa / 10 ^ read.scale + 1
      else read.mantissa / 10 ^ read.scale := by
  unfold Digits.roundBy? at rounds
  by_cases down : digit < 5
  · rw [if_pos down] at rounds
    cases rounds
    rw [if_neg (Nat.not_le.mpr down)]
    exact roundHalfUp_mantissa _ _
  · rw [if_neg down] at rounds
    have up := Nat.not_lt.mp down
    rw [if_pos up]
    by_cases larger : read.mantissa + 1 < mantissaLimit
    · rw [if_pos larger] at rounds
      cases rounds
      rw [roundHalfUp_succ]
      have enough : 10 ^ read.scale ≤ 2 * (read.mantissa % 10 ^ read.scale + 1) ↔
          10 ^ read.scale ≤ 2 * (read.mantissa % 10 ^ read.scale) + 1 := by
        have notShort : ¬ read.IsShortOfHalf := fun short => exactly ⟨short, up⟩
        unfold Digits.IsShortOfHalf at notShort
        omega
      simp only [enough]
    · rw [if_neg larger] at rounds
      have largest : read.mantissa = mantissaLimit - 1 := by omega
      split at rounds
      · cases rounds
      · rename_i places
        cases rounds
        have last := round_largest (read.scale - 1) (by omega)
        rwa [Nat.sub_add_cancel (Nat.pos_of_ne_zero places), ← largest] at last

/-- Where rounding to the last place makes up a half, the integer is one too large. -/
theorem roundHalfUp_roundBy_of_short (small : read.mantissa < mantissaLimit)
    (room : read.scale ≤ maxScale) (short : read.IsShortOfHalf) (up : 5 ≤ digit) :
    ∃ rounded, read.roundBy? digit = some rounded ∧
      roundHalfUp rounded.mantissa (10 ^ rounded.scale) = read.mantissa / 10 ^ read.scale + 1 := by
  have larger : read.mantissa + 1 < mantissaLimit := by
    refine Nat.lt_of_not_le fun reached => ?_
    have largest : read.mantissa = mantissaLimit - 1 := by omega
    apply largest_not_short read.scale room
    rwa [Digits.IsShortOfHalf, largest] at short
  refine ⟨{ read with mantissa := read.mantissa + 1 }, ?_, ?_⟩
  · rw [Digits.roundBy?, if_neg (Nat.not_lt.mpr up), if_pos larger]
  · rw [roundHalfUp_succ, if_pos (Nat.le_of_eq short.symm)]

theorem roundBy?_inRange (small : read.mantissa < mantissaLimit) (room : read.scale ≤ maxScale)
    (rounds : read.roundBy? digit = some rounded) :
    rounded.mantissa < mantissaLimit ∧ rounded.scale ≤ maxScale := by
  unfold Digits.roundBy? at rounds
  grind

/-- Rounding fails only where there is a digit too many in front of the point. -/
theorem roundBy?_eq_none_iff :
    read.roundBy? digit = none ↔
      5 ≤ digit ∧ mantissaLimit ≤ read.mantissa + 1 ∧ read.scale = 0 := by
  unfold Digits.roundBy?
  grind

end Rounding

end Decimal

end SqlScalar
