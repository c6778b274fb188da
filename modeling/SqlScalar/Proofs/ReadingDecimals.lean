import SqlScalar.Decimal.Notation
import SqlScalar.Proofs.ReadingDigits

/-! # Reading written decimal numbers

Every decimal number is read back from its text digit for digit, with its scale. Only a zero
loses a minus sign.
-/

namespace SqlScalar.Decimal

open Text

section Runs

variable {point started : Bool} {read : Digits} {run rest : List Char}

/-- Where there is room for it, a digit is put behind those that have been read. -/
theorem readDigits_digit {digit : Char} (isDigit : digit.isDigit = true)
    (room : read.scale < maxScale) (small : 10 * read.mantissa + digitValue digit < mantissaLimit) :
    readDigits? point started read (digit :: rest) = readDigits? point true
      ⟨10 * read.mantissa + digitValue digit, if point then read.scale + 1 else 0⟩ rest := by
  rw [readDigits?, if_neg (Nat.not_le_of_lt room), if_pos isDigit, if_pos small]

theorem readDigits_point (room : read.scale < maxScale) :
    readDigits? false started read ('.' :: rest) = readDigits? true started read rest := by
  have noDigit : ¬ '.'.isDigit = true := by decide
  rw [readDigits?, if_neg (Nat.not_le_of_lt room), if_neg noDigit, if_pos ⟨rfl, rfl⟩]

theorem le_ofDigitChars (run : List Char) (start : Nat) :
    start ≤ Nat.ofDigitChars 10 run start := by
  rw [Nat.ofDigitChars_eq_ofDigitChars_zero]
  have scaled : start ≤ 10 ^ run.length * start :=
    Nat.le_mul_of_pos_left _ (Nat.pow_pos (by decide))
  omega

/-- Digits in front of the point are read as the whole number they stand for. -/
theorem readDigits_whole {mantissa : Nat} (digits : AllDigits run) (some : run ≠ [])
    (small : Nat.ofDigitChars 10 run mantissa < mantissaLimit) :
    readDigits? false started ⟨mantissa, 0⟩ (run ++ rest) =
      readDigits? false true ⟨Nat.ofDigitChars 10 run mantissa, 0⟩ rest := by
  induction run generalizing started mantissa with
  | nil => exact absurd rfl some
  | cons first run ih =>
      rw [Nat.ofDigitChars_cons] at small ⊢
      obtain ⟨isDigit, restDigits⟩ := List.forall_mem_cons.mp digits
      have within := Nat.lt_of_le_of_lt (le_ofDigitChars run _) small
      rw [List.cons_append, readDigits_digit isDigit (by decide : 0 < maxScale) within]
      by_cases last : run = []
      · rw [last]
        rfl
      · exact ih restDigits last small

/-- Digits behind the point are read as long as the scale has room for them. -/
theorem readDigits_places {mantissa scale : Nat} (digits : AllDigits run)
    (room : scale + run.length ≤ maxScale)
    (small : Nat.ofDigitChars 10 run mantissa < mantissaLimit) :
    readDigits? true true ⟨mantissa, scale⟩ (run ++ rest) =
      readDigits? true true ⟨Nat.ofDigitChars 10 run mantissa, scale + run.length⟩ rest := by
  induction run generalizing mantissa scale with
  | nil => rfl
  | cons first run ih =>
      rw [Nat.ofDigitChars_cons] at small ⊢
      rw [List.length_cons] at room
      obtain ⟨isDigit, restDigits⟩ := List.forall_mem_cons.mp digits
      have within := Nat.lt_of_le_of_lt (le_ofDigitChars run _) small
      have below : scale < maxScale := by omega
      have behind := ih restDigits (by omega : scale + 1 + run.length ≤ maxScale) small
      rw [List.cons_append, readDigits_digit isDigit below within, List.length_cons,
        Nat.add_comm run.length, ← Nat.add_assoc]
      exact behind

/-- Digits with a point among them are read as the number they make up without the point. -/
theorem readDigits_around {before after : List Char} (beforeDigits : AllDigits before)
    (afterDigits : AllDigits after) (some : before ≠ []) (room : after.length ≤ maxScale)
    (small : numberOf (before ++ after) < mantissaLimit) :
    readDigits? false false ⟨0, 0⟩ (before ++ '.' :: after) =
      .some ⟨numberOf (before ++ after), after.length⟩ := by
  rw [numberOf, Nat.ofDigitChars_append] at small ⊢
  have within := Nat.lt_of_le_of_lt (le_ofDigitChars after _) small
  have fits : 0 + after.length ≤ maxScale := by omega
  have behind : readDigits? true true ⟨_, 0⟩ (after ++ []) = _ :=
    readDigits_places afterDigits fits small
  rw [readDigits_whole beforeDigits some within,
    readDigits_point (by decide : 0 < maxScale), ← List.append_nil after, behind]
  simp only [List.append_nil, Nat.zero_add, readDigits?, ↓reduceIte]

end Runs

section Texts

/-- The digits of a number and the place of its point are read back. -/
theorem readDigits_pointed {mantissa scale : Nat} (small : mantissa < mantissaLimit)
    (fits : scale ≤ maxScale) :
    readDigits? false false ⟨0, 0⟩ (pointed mantissa scale) = some ⟨mantissa, scale⟩ := by
  have valueIs := numberOf_padded (scale + 1) mantissa
  have digits := allDigits_padZeros (scale + 1) (allDigits_digits mantissa)
  have long := le_length_padZeros (scale + 1) (Text.digits mantissa)
  unfold pointed
  generalize padZeros (scale + 1) (Text.digits mantissa) = places at valueIs digits long
  subst valueIs
  dsimp only
  by_cases integral : scale = 0
  · have some : places ≠ [] := List.ne_nil_of_length_pos (Nat.lt_of_lt_of_le (by omega) long)
    have whole : readDigits? false false ⟨0, 0⟩ (places ++ []) = _ :=
      readDigits_whole digits some small
    rw [List.append_nil] at whole
    rw [if_pos integral, integral, whole]
    rfl
  · have some : places.take (places.length - scale) ≠ [] := by
      rw [← List.length_pos_iff, List.length_take]
      omega
    have length : (places.drop (places.length - scale)).length = scale := by
      rw [List.length_drop]
      omega
    have room : (places.drop (places.length - scale)).length ≤ maxScale := by omega
    have read := readDigits_around (digits.take _) (digits.drop _) some room
    rw [List.take_append_drop, length] at read
    rw [if_neg integral]
    exact read small

/-- The number with no minus sign in front of zero. -/
def withoutNegativeZero (number : Decimal) : Decimal :=
  { number with negative := number.negative && number.mantissa != 0 }

/-- The parts of a decimal number make up that number, without a negative zero. -/
theorem ofResult?_parts (number : Decimal) :
    ofResult? number.negative number.mantissa number.scale = some number.withoutNegativeZero :=
  dif_pos ⟨number.mantissa_lt, number.scale_le⟩

/-- A number without a sign is read from its first digit on. -/
theorem readPlain?_of_unsigned {text : List Char} (unsigned : IsMagnitude text) :
    readPlain? text = (readDigits? false false ⟨0, 0⟩ text).bind
      fun read => ofResult? false read.mantissa read.scale := by
  unfold readPlain?
  split
  · exact absurd rfl (unsigned.ne_cons rfl _)
  · exact absurd rfl (unsigned.ne_cons rfl _)
  · rfl

/-- A decimal number is read back from its text, but for a minus sign in front of zero. -/
theorem read_text (number : Decimal) : read? number.text = some number.withoutNegativeZero := by
  have read := readDigits_pointed number.mantissa_lt number.scale_le
  have plain : readPlain? number.text = some number.withoutNegativeZero := by
    rw [← ofResult?_parts, text]
    cases number.negative with
    | false =>
        have unsigned := readPlain?_of_unsigned
          (isMagnitude_pointed number.mantissa number.scale)
        rw [read] at unsigned
        exact unsigned
    | true =>
        simp only [↓reduceIte, readPlain?, read, Option.bind_eq_bind, Option.bind_some]
  rw [read?, plain]
  rfl

/-- Digits with a point have no blanks. -/
theorem visible_pointed (mantissa scale : Nat) : Visible (pointed mantissa scale) := by
  have places := allDigits_padZeros (scale + 1) (allDigits_digits mantissa)
  unfold pointed
  dsimp only
  split
  · exact places.visible
  · exact (places.take _).visible.append ((places.drop _).visible.cons rfl)

/-- A decimal number is written without blanks. -/
theorem visible_text (number : Decimal) : Visible number.text := by
  have magnitude := visible_pointed number.mantissa number.scale
  unfold text
  dsimp only
  split
  · exact magnitude.cons rfl
  · exact magnitude

end Texts

end SqlScalar.Decimal
