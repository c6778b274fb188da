import SqlScalar.Value.Notation

/-! # Written literals

What the text of a literal is made of. A number is one token that starts with a digit or with a
minus sign and a second character. Anything else that is not one of five words stands between
quotes, and no quote inside stands alone.
-/

namespace SqlScalar

namespace Text

/-- The characters that tokens are separated by. -/
def separators : List Char :=
  [' ', ',', '(', ')', '\'']

/-- Whether a character can be part of a token. -/
def isPlain (char : Char) : Bool :=
  !separators.contains char

/-- A text that is one token. -/
def Plain (text : List Char) : Prop :=
  ∀ char ∈ text, isPlain char = true

instance (text : List Char) : Decidable (Plain text) :=
  List.decidableBAll _ text

/-- A kind of characters without separators is part of tokens. -/
theorem isPlain_of_kind {kind : Char → Bool} (other : separators.any kind = false) {char : Char}
    (isKind : kind char = true) : isPlain char = true := by
  cases plain : isPlain char with
  | true => rfl
  | false =>
      have isSeparator : char ∈ separators := by
        rw [isPlain, Bool.not_eq_false'] at plain
        exact List.contains_iff_mem.mp plain
      exact absurd isKind (List.any_eq_false.mp other char isSeparator)

theorem isPlain_of_isDigit {char : Char} (digit : char.isDigit = true) : isPlain char = true :=
  isPlain_of_kind (by decide) digit

theorem Plain.append {left right : List Char} (leftPlain : Plain left) (rightPlain : Plain right) :
    Plain (left ++ right) :=
  List.forall_mem_append.mpr ⟨leftPlain, rightPlain⟩

theorem Plain.cons {char : Char} {text : List Char} (isPlainChar : isPlain char = true)
    (textPlain : Plain text) : Plain (char :: text) :=
  List.forall_mem_cons.mpr ⟨isPlainChar, textPlain⟩

/-- A text without a quote. -/
def Unquoted (text : List Char) : Prop :=
  ∀ char ∈ text, char ≠ '\''

theorem Plain.unquoted {text : List Char} (plain : Plain text) : Unquoted text := by
  rintro char isMember rfl
  cases plain _ isMember

/-- A text that is nothing but digits. -/
def AllDigits (text : List Char) : Prop :=
  ∀ char ∈ text, char.isDigit = true

theorem AllDigits.plain {text : List Char} (digits : AllDigits text) : Plain text :=
  fun char isMember => isPlain_of_isDigit (digits char isMember)

theorem AllDigits.take {text : List Char} (digits : AllDigits text) (count : Nat) :
    AllDigits (text.take count) :=
  fun char isMember => digits char (List.mem_of_mem_take isMember)

theorem AllDigits.drop {text : List Char} (digits : AllDigits text) (count : Nat) :
    AllDigits (text.drop count) :=
  fun char isMember => digits char (List.mem_of_mem_drop isMember)

theorem allDigits_digits (number : Nat) : AllDigits (digits number) :=
  fun _ isMember => Nat.isDigit_of_mem_toDigits (by decide) (by decide) isMember

/-- Zeros in front of digits are digits. -/
theorem allDigits_padZeros {text : List Char} (width : Nat) (digits : AllDigits text) :
    AllDigits (padZeros width text) := by
  intro char isMember
  rcases List.mem_append.mp isMember with isZero | isMember
  · rw [List.eq_of_mem_replicate isZero]
    rfl
  · exact digits char isMember

theorem le_length_padZeros (width : Nat) (text : List Char) :
    width ≤ (padZeros width text).length := by
  simp only [padZeros, List.length_append, List.length_replicate]
  omega

/-- A token that starts with a digit, as a number without a sign does. -/
structure IsMagnitude (text : List Char) : Prop where
  plain : Plain text
  starts : ∃ first rest, text = first :: rest ∧ first.isDigit = true

/-- A token that a number can be written as. A minus sign does not stand alone in it. -/
structure IsNumeral (text : List Char) : Prop where
  plain : Plain text
  starts : (∃ first rest, text = first :: rest ∧ first.isDigit = true) ∨
    ∃ second rest, text = '-' :: second :: rest

theorem AllDigits.isMagnitude {text : List Char} (digits : AllDigits text) (some : text ≠ []) :
    IsMagnitude text := by
  refine ⟨digits.plain, ?_⟩
  cases text with
  | nil => exact absurd rfl some
  | cons first rest => exact ⟨first, rest, rfl, digits first List.mem_cons_self⟩

theorem IsMagnitude.append {left right : List Char} (magnitude : IsMagnitude left)
    (plain : Plain right) : IsMagnitude (left ++ right) := by
  refine ⟨magnitude.plain.append plain, ?_⟩
  obtain ⟨first, rest, rfl, digit⟩ := magnitude.starts
  exact ⟨first, rest ++ right, rfl, digit⟩

theorem IsMagnitude.isNumeral {text : List Char} (magnitude : IsMagnitude text) :
    IsNumeral text :=
  ⟨magnitude.plain, .inl magnitude.starts⟩

theorem IsMagnitude.negative {text : List Char} (magnitude : IsMagnitude text) :
    IsNumeral ('-' :: text) := by
  refine ⟨.cons rfl magnitude.plain, .inr ?_⟩
  obtain ⟨first, rest, rfl, _⟩ := magnitude.starts
  exact ⟨first, rest, rfl⟩

theorem isMagnitude_digits (number : Nat) : IsMagnitude (digits number) :=
  (allDigits_digits number).isMagnitude Nat.toDigits_ne_nil

theorem isNumeral_signedDigits (number : Int) : IsNumeral (signedDigits number) := by
  unfold signedDigits
  split
  · exact (isMagnitude_digits _).negative
  · exact (isMagnitude_digits _).isNumeral

/-- Digits with a point among them, though not in front. -/
theorem isMagnitude_pointed {places : List Char} {behind : Nat} (digits : AllDigits places)
    (inside : behind < places.length) :
    IsMagnitude (places.take (places.length - behind) ++
      '.' :: places.drop (places.length - behind)) := by
  refine ((digits.take _).isMagnitude ?_).append (.cons rfl (digits.drop _).plain)
  rw [← List.length_pos_iff, List.length_take]
  omega

end Text

open Text

/-- Digits with a point make a number without a sign. -/
theorem Decimal.isMagnitude_pointed (mantissa scale : Nat) :
    IsMagnitude (pointed mantissa scale) := by
  have places := allDigits_padZeros (scale + 1) (allDigits_digits mantissa)
  have long := le_length_padZeros (scale + 1) (digits mantissa)
  unfold pointed
  dsimp only
  split
  · refine places.isMagnitude ?_
    rw [← List.length_pos_iff]
    omega
  · exact Text.isMagnitude_pointed places long

/-- A decimal number is written as a number. -/
theorem Decimal.isNumeral_text (number : Decimal) : IsNumeral number.text := by
  have magnitude := isMagnitude_pointed number.mantissa number.scale
  unfold text
  dsimp only
  split
  · exact magnitude.negative
  · exact magnitude.isNumeral

namespace Floating

variable {format : FloatFormat} {units : Nat}

/-- A magnitude other than zero is no smaller than the power of ten of its first digit. -/
theorem one_mul_pow_le {exponent : Int} (some : units ≠ 0)
    (below : exponent ≤ leadingExponent format units) :
    format.one * 10 ^ exponent.toNat ≤ units * 10 ^ (-exponent).toNat := by
  have positive : 0 < units := Nat.pos_of_ne_zero some
  have one_le : format.one ≤ 10 ^ format.unitBits := Nat.pow_le_pow_left (by decide) _
  have one_pos : 0 < format.one := Nat.two_pow_pos _
  generalize shiftedIs : units * 10 ^ format.unitBits / format.one = shifted
  generalize lengthIs : (digits shifted).length = length
  have leading : exponent + format.unitBits ≤ (length : Int) - 1 := by
    simp only [leadingExponent, shiftedIs, lengthIs] at below
    omega
  have shifted_pos : 0 < shifted := by
    rw [← shiftedIs]
    refine Nat.div_pos ?_ one_pos
    exact Nat.le_trans one_le (Nat.le_mul_of_pos_left _ positive)
  have first : 10 ^ (length - 1) ≤ shifted := by
    rcases Nat.eq_zero_or_pos (length - 1) with none | more
    · rw [none]
      exact shifted_pos
    · refine Nat.le_of_not_lt fun small => ?_
      have short := (Nat.length_toDigits_le_iff (by decide) more).mpr small
      change (digits shifted).length ≤ length - 1 at short
      omega
  have scaled : format.one * 10 ^ (length - 1) ≤ units * 10 ^ format.unitBits := by
    rw [← shiftedIs, Nat.le_div_iff_mul_le one_pos] at first
    rw [Nat.mul_comm]
    exact first
  -- A power of ten common to both sides is cancelled from the bound on the first digit.
  have cancel (count rest more : Nat) (fits : count + rest ≤ length - 1)
      (whole : more + rest = format.unitBits) : format.one * 10 ^ count ≤ units * 10 ^ more := by
    have positive : 0 < 10 ^ rest := Nat.pow_pos (by decide)
    refine Nat.le_of_mul_le_mul_right ?_ positive
    rw [Nat.mul_assoc, Nat.mul_assoc, ← Nat.pow_add, ← Nat.pow_add, whole]
    refine Nat.le_trans (Nat.mul_le_mul_left _ ?_) scaled
    exact Nat.pow_le_pow_right (by decide) fits
  rcases Int.lt_or_le exponent 0 with negative | nonnegative
  · rcases Nat.lt_or_ge (-exponent).toNat format.unitBits with within | beyond
    · refine cancel _ (format.unitBits - (-exponent).toNat) _ ?_ ?_
      · omega
      · omega
    · rw [Int.toNat_of_nonpos (by omega), Nat.pow_zero, Nat.mul_one]
      refine Nat.le_trans one_le (Nat.le_trans ?_ (Nat.le_mul_of_pos_left _ positive))
      exact Nat.pow_le_pow_right (by decide) beyond
  · refine cancel _ format.unitBits _ ?_ ?_
    · omega
    · omega

/-- Digits tried at an exponent that is not too large are not all zero. -/
theorem significand_refine (some : units ≠ 0) (tries : Nat) {exponent : Int}
    (below : exponent ≤ leadingExponent format units) :
    (refine format units tries exponent).significand ≠ 0 := by
  have one_pos : 0 < format.one := Nat.two_pow_pos _
  induction tries generalizing exponent with
  | zero =>
      have bound := one_mul_pow_le some below
      have reaches : format.one ≤ units * 10 ^ (-exponent).toNat :=
        Nat.le_trans (Nat.le_mul_of_pos_right _ (Nat.pow_pos (by decide))) bound
      exact Nat.ne_of_gt (Nat.div_pos reaches one_pos)
  | succ tries ih =>
      unfold refine
      split
      · rename_i found onGrid
        have quotient_pos : 0 < units * 10 ^ (-exponent).toNat /
            (format.one * 10 ^ exponent.toNat) :=
          Nat.div_pos (one_mul_pow_le some below)
            (Nat.mul_pos one_pos (Nat.pow_pos (by decide)))
        unfold onGrid? at onGrid
        dsimp only at onGrid ⊢
        split at onGrid
        · cases onGrid
          split
          · omega
          · omega
        · cases onGrid
          omega
        · cases onGrid
          omega
        · cases onGrid
      · exact ih (by omega)

/-- The shortest decimal number that stands for a magnitude is not zero. -/
theorem significand_shortest (some : units ≠ 0) : (shortest format units).significand ≠ 0 :=
  significand_refine some _ (Int.le_refl _)

/-- Zeros alone stand for zero. -/
theorem numberOf_zeros {run : List Char} (zeros : ∀ char ∈ run, char = '0') : numberOf run = 0 := by
  unfold numberOf
  induction run with
  | nil => rfl
  | cons first rest ih =>
      obtain rfl := zeros first List.mem_cons_self
      exact ih fun char isMember => zeros char (List.mem_cons_of_mem _ isMember)

/-- Only zero has no digits left without the zeros at the end. -/
theorem normal_ne_nil {number : Scientific} (some : number.significand ≠ 0) :
    number.normal.1 ≠ [] := by
  unfold Scientific.normal
  dsimp only
  generalize runIs : digits number.significand = run
  intro empty
  have run_some : run ≠ [] := by
    rw [← runIs]
    exact Nat.toDigits_ne_nil
  have none_left := (List.take_eq_nil_iff.mp empty).resolve_right run_some
  have whole : run.reverse.takeWhile (· == '0') = run.reverse := by
    refine (List.takeWhile_prefix _).eq_of_length_le ?_
    rw [List.length_reverse]
    omega
  have zeros : ∀ char ∈ run, char = '0' := by
    intro char isMember
    rw [← List.mem_reverse, ← whole] at isMember
    have all : (run.reverse.takeWhile (· == '0')).all (· == '0') = true := List.all_takeWhile
    exact eq_of_beq (List.all_eq_true.mp all char isMember)
  have isZero := numberOf_zeros zeros
  rw [← runIs, numberOf_digits] at isZero
  exact some isZero

theorem allDigits_normal (number : Scientific) : AllDigits number.normal.1 :=
  (allDigits_digits number.significand).take _

/-- Digits with a point in their place make a number without a sign. -/
theorem isMagnitude_positional {run : List Char} (digits : AllDigits run) (some : run ≠ [])
    (exponent : Int) : IsMagnitude (positional run exponent) := by
  unfold positional
  split
  · have zeros : AllDigits (List.replicate exponent.toNat '0') := by
      intro char isMember
      rw [List.eq_of_mem_replicate isMember]
      rfl
    exact ((digits.isMagnitude some).append zeros.plain).append (.cons rfl (.cons rfl nofun))
  · have long := le_length_padZeros (exponent.natAbs + 1) run
    exact isMagnitude_pointed (allDigits_padZeros _ digits) long

/-- Digits with an exponent make a number without a sign. -/
theorem isMagnitude_exponential {run : List Char} (digits : AllDigits run) (some : run ≠ [])
    (leading : Int) : IsMagnitude (exponential run leading) := by
  have exponent : Plain ('e' :: signedDigits leading) :=
    .cons rfl (isNumeral_signedDigits leading).plain
  cases run with
  | nil => exact absurd rfl some
  | cons first rest =>
      have digit := digits first List.mem_cons_self
      have alone : AllDigits [first] := by
        intro char isMember
        rw [List.mem_singleton.mp isMember]
        exact digit
      cases rest with
      | nil => exact (alone.isMagnitude nofun).append exponent
      | cons second rest =>
          have behind : AllDigits (second :: rest) :=
            fun char isMember => digits char (List.mem_cons_of_mem _ isMember)
          have pointed : IsMagnitude ([first] ++ '.' :: second :: rest) :=
            (alone.isMagnitude nofun).append (.cons rfl behind.plain)
          exact pointed.append exponent

/-- The magnitude of a floating-point number is written without a sign. -/
theorem isMagnitude_magnitudeText (format : FloatFormat) (units : Nat) :
    IsMagnitude (magnitudeText format units) := by
  unfold magnitudeText
  split
  · exact ⟨by decide, '0', ['.', '0'], rfl, rfl⟩
  · rename_i some
    have digits := allDigits_normal (shortest format units)
    have run_some : (shortest format units).normal.1 ≠ [] :=
      normal_ne_nil (significand_shortest some)
    dsimp only
    split
    · exact isMagnitude_positional digits run_some _
    · exact isMagnitude_exponential digits run_some _

/-- A floating-point number is written as a number or as one of two words. -/
theorem isNumeral_text (number : Floating format) :
    IsNumeral number.text ∨ number.text = "NaN".toList ∨ number.text = "inf".toList := by
  cases number with
  | nan => exact .inr (.inl rfl)
  | infinite negative =>
      cases negative with
      | false => exact .inr (.inr rfl)
      | true =>
          have plain : Plain ['-', 'i', 'n', 'f'] := by decide
          exact .inl ⟨plain, .inr ⟨'i', ['n', 'f'], rfl⟩⟩
  | finite negative units representable =>
      have magnitude := isMagnitude_magnitudeText format units
      cases negative with
      | false => exact .inl magnitude.isNumeral
      | true => exact .inl magnitude.negative

end Floating

section Quoted

/-- Where there are no quotes none is written twice. -/
theorem Text.doubleQuotes_of_unquoted {text : List Char} (unquoted : Unquoted text) :
    doubleQuotes text = text := by
  induction text with
  | nil => rfl
  | cons first rest ih =>
      have other := unquoted first List.mem_cons_self
      have same := ih fun char isMember => unquoted char (List.mem_cons_of_mem _ isMember)
      unfold doubleQuotes
      split
      · rename_i empty
        cases empty
      · rename_i isQuote
        cases isQuote
        exact absurd rfl other
      · rename_i isOther
        cases isOther
        rw [same]

theorem plain_twoDigits (number : Nat) : Plain (Calendar.twoDigits number) :=
  (allDigits_padZeros _ (allDigits_digits number)).plain

/-- A year is one token. -/
theorem plain_yearText (year : Int) : Plain (Calendar.yearText year) := by
  have places := (allDigits_padZeros 4 (allDigits_digits year.natAbs)).plain
  unfold Calendar.yearText
  dsimp only
  split
  · exact .cons rfl places
  · split
    · exact .cons rfl places
    · exact places

theorem Calendar.Date.plain_text (date : Date) : Plain date.text :=
  ((plain_yearText _).append (.cons rfl (plain_twoDigits _))).append
    (.cons rfl (plain_twoDigits _))

/-- A fraction of a second is part of a token. -/
theorem plain_fractionText (nano : Nat) : Plain (Calendar.fractionText nano) := by
  have places (width number : Nat) : Plain ('.' :: padZeros width (digits number)) :=
    .cons rfl (allDigits_padZeros width (allDigits_digits number)).plain
  unfold Calendar.fractionText
  split
  · nofun
  · split
    · exact places _ _
    · split
      · exact places _ _
      · exact places _ _

theorem Calendar.TimeOfDay.plain_text (clock : TimeOfDay) : Plain clock.text :=
  (((plain_twoDigits _).append (.cons rfl (plain_twoDigits _))).append
    (.cons rfl (plain_twoDigits _))).append (plain_fractionText _)

/-- A timestamp is written without quotes. -/
theorem Calendar.Timestamp.unquoted_text (instant : Timestamp) : Unquoted instant.text := by
  intro char isMember
  rcases List.mem_append.mp isMember with inDate | behind
  · exact instant.date.plain_text.unquoted char inDate
  · rcases List.mem_cons.mp behind with rfl | inTime
    · decide
    · exact instant.time.plain_text.unquoted char inTime

theorem Text.Hex.plain_digit : ∀ value < 16, isPlain (digit value) = true := by
  decide

/-- Bytes are one token. -/
theorem Text.Hex.plain_write (bytes : List UInt8) : Plain (write bytes) := by
  intro char isMember
  obtain ⟨byte, _, inByte⟩ := List.mem_flatMap.mp isMember
  have small := byte.toNat_lt
  simp only [ofByte, List.mem_cons, List.not_mem_nil, or_false] at inByte
  rcases inByte with rfl | rfl
  · exact plain_digit _ (by omega)
  · exact plain_digit _ (by omega)

end Quoted

namespace Value

/-- The words that are literals by themselves. -/
def words : List String :=
  ["NULL", "TRUE", "FALSE", "NaN", "inf"]

/-- What may stand in front of the quoted part of a literal. -/
def leads : List (List Char) :=
  [[], "X".toList, "TIME ".toList, "DATE ".toList, "TIMESTAMP ".toList]

/-- The forms a literal is written in. -/
inductive Written : List Char → Prop
  | numeral {text : List Char} (numeral : IsNumeral text) : Written text
  | word {word : String} (listed : word ∈ words) : Written word.toList
  | quoted {lead : List Char} (listed : lead ∈ leads) (content : List Char) :
      Written (lead ++ Text.quoted content)

/-- Content without quotes stands between the quotes of a literal as it is. -/
theorem opening_append_content {opening lead content : List Char} (opens : opening = lead ++ ['\''])
    (unquoted : Unquoted content) :
    opening ++ content ++ ['\''] = lead ++ Text.quoted content := by
  rw [opens, Text.quoted, doubleQuotes_of_unquoted unquoted, List.append_assoc, List.append_assoc]
  rfl

/-- A text in quotes behind something that may stand there is written as literals are. -/
theorem written_quoted {opening content : List Char} (lead : List Char)
    (opens : opening = lead ++ ['\'']) (listed : lead ∈ leads) (unquoted : Unquoted content) :
    Written (opening ++ content ++ ['\'']) := by
  rw [opening_append_content opens unquoted]
  exact .quoted listed content

theorem written_word (word : String) (listed : word ∈ words) : Written word.toList :=
  .word listed

/-- A floating-point number is written as literals are. -/
theorem written_floating {format : FloatFormat} (number : Floating format) :
    Written number.text := by
  rcases number.isNumeral_text with numeral | isNan | isInfinite
  · exact .numeral numeral
  · rw [isNan]
    exact written_word "NaN" (by decide)
  · rw [isInfinite]
    exact written_word "inf" (by decide)

/-- Every literal is written in one of these forms. -/
theorem written_literal (value : Value) : Written value.literal := by
  cases value with
  | null => exact written_word "NULL" (by decide)
  | boolean truth =>
      cases truth with
      | true => exact written_word "TRUE" (by decide)
      | false => exact written_word "FALSE" (by decide)
  | integer number => exact .numeral (isNumeral_signedDigits _)
  | bigint number => exact .numeral (isNumeral_signedDigits _)
  | decimal number => exact .numeral number.isNumeral_text
  | real number => exact written_floating number
  | double number => exact written_floating number
  | varchar text =>
      have bare : [] ∈ leads := by decide
      exact .quoted bare text.toList
  | time clock =>
      exact written_quoted "TIME ".toList (by simp) (by decide) clock.plain_text.unquoted
  | date day =>
      exact written_quoted "DATE ".toList (by simp) (by decide) day.plain_text.unquoted
  | timestamp instant =>
      exact written_quoted "TIMESTAMP ".toList (by simp) (by decide) instant.unquoted_text
  | varbinary bytes =>
      exact written_quoted "X".toList (by simp) (by decide) (Hex.plain_write bytes).unquoted

end Value

end SqlScalar
