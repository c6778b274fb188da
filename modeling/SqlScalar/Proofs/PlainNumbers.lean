import Mathlib.Data.List.TakeDrop
import Mathlib.Data.List.TakeWhile
import SqlScalar.Proofs.LongDecimals

/-! # Plain numbers as integers

A plain number is written with digits, a sign if need be, and a point and more digits if need be.
A string that is a plain number is converted to the integer nearest to it, of two that are equally
near the one further from zero, and overflows if the type does not have that integer. There are two
exceptions: a number that is too large to be read at all does not convert, and one with so many
places that it is rounded to a half when it is read is rounded up a second time.
-/

namespace SqlScalar

open Text

/-- The sign in front of a number, if there is one. -/
inductive Sign where
  | bare
  | plus
  | minus

namespace Sign

/-- How a sign is written. -/
def text : Sign → List Char
  | bare => []
  | plus => ['+']
  | minus => ['-']

/-- Whether a sign turns a number round. -/
def isMinus : Sign → Bool
  | bare | plus => false
  | minus => true

/-- A magnitude with a sign. -/
def apply (sign : Sign) (magnitude : Nat) : Int :=
  if sign.isMinus then -magnitude else magnitude

theorem natAbs_apply (sign : Sign) (magnitude : Nat) :
    (sign.apply magnitude).natAbs = magnitude := by
  unfold apply
  split
  · rw [Int.natAbs_neg, Int.natAbs_natCast]
  · rw [Int.natAbs_natCast]

/-- Two numbers with one sign are as far apart as their magnitudes. -/
theorem natAbs_apply_sub (sign : Sign) (left right base : Nat) :
    (sign.apply left - sign.apply right * base).natAbs = ((left : Int) - right * base).natAbs := by
  unfold apply
  split
  · rw [Int.neg_mul]
    omega
  · rfl

end Sign

/-- A number that is written without an exponent: a sign, digits, and perhaps digits behind a
point. -/
structure PlainNumber where
  sign : Sign
  whole : List Char
  /-- The digits behind the point. Without any there is no point. -/
  places : List Char
  whole_digits : AllDigits whole
  whole_ne_nil : whole ≠ []
  places_digits : AllDigits places

namespace PlainNumber

/-- The number as it is written behind its sign. -/
def unsigned (number : PlainNumber) : List Char :=
  if number.places = [] then number.whole else number.whole ++ '.' :: number.places

/-- The number as it is written. -/
def text (number : PlainNumber) : List Char :=
  number.sign.text ++ number.unsigned

/-- The magnitude of the number in units of its last place. -/
def size (number : PlainNumber) : Nat :=
  numberOf (number.whole ++ number.places)

/-- The magnitude of the number with a half added, rounded down. -/
def nearest (number : PlainNumber) : Nat :=
  (2 * number.size + 10 ^ number.places.length) / (2 * 10 ^ number.places.length)

/-- The integer next to the number, on its own side of zero. -/
def nearestWhole (number : PlainNumber) : Int :=
  number.sign.apply number.nearest

/-- Whether an integer is no more than a half away from a number, and beyond it as seen from zero
if it is just a half away. -/
structure RoundsTo (number : PlainNumber) (whole : Int) : Prop where
  near : 2 * (number.sign.apply number.size - whole * (10 ^ number.places.length : Nat)).natAbs ≤
    10 ^ number.places.length
  beyond : 2 * (number.sign.apply number.size - whole * (10 ^ number.places.length : Nat)).natAbs =
    10 ^ number.places.length → number.size < whole.natAbs * 10 ^ number.places.length

/-- Whether a number has no place among the integers of 128 bits, or with a point among the
magnitudes of 96 bits. -/
def TooLarge (number : PlainNumber) : Prop :=
  if number.places = [] then
    ¬ (-2 ^ (127 : Nat) ≤ number.nearestWhole ∧ number.nearestWhole < 2 ^ (127 : Nat))
  else 2 ^ (96 : Nat) ≤ number.nearest

/-- Whether the places there is room for are a half but for one in the last of them, and the digit
behind them makes up for it. -/
def RoundsTwice (number : PlainNumber) : Prop :=
  ∃ kept next dropped, number.places = kept ++ next :: dropped ∧
    Decimal.StopsAt number.whole kept next ∧
    2 * (numberOf kept + 1) = 10 ^ kept.length ∧ 5 ≤ digitValue next

variable {number : PlainNumber}

section Nearest

/-- A number is rounded up just if the digits behind its point are a half or more. -/
theorem nearest_eq (number : PlainNumber) :
    number.nearest =
      if 10 ^ number.places.length ≤ 2 * numberOf number.places then numberOf number.whole + 1
      else numberOf number.whole := by
  have below := number.places_digits.numberOf_lt
  rw [← roundHalfUp_part _ (Decimal.ten_pow_pos _) (Nat.le_of_lt below), ← numberOf_append]
  rfl

/-- The integer next to a number is settled by the places that are kept and the digit behind. -/
theorem nearest_of_split {kept dropped : List Char} {next : Char}
    (split : number.places = kept ++ next :: dropped) :
    number.nearest =
      if 10 ^ kept.length ≤ 2 * numberOf kept + (if 5 ≤ digitValue next then 1 else 0) then
        numberOf number.whole + 1
      else numberOf number.whole := by
  have digits := number.places_digits
  rw [split] at digits
  have droppedDigits : AllDigits (next :: dropped) := (List.forall_mem_append.mp digits).2
  have enough : 10 ^ number.places.length ≤ 2 * numberOf number.places ↔
      10 ^ kept.length ≤ 2 * numberOf kept + (if 5 ≤ digitValue next then 1 else 0) := by
    rw [← droppedDigits.twice_numberOf_div, split, List.length_append, List.length_cons,
      Nat.pow_add, ← Nat.le_div_iff_mul_le (Decimal.ten_pow_pos _), numberOf_append,
      List.length_cons,
      Nat.mul_add, ← Nat.mul_assoc, Nat.add_comm (2 * numberOf kept * _),
      Nat.add_mul_div_right _ _ (Decimal.ten_pow_pos _), Nat.add_comm]
  rw [nearest_eq]
  simp only [enough]

/-- The nearest integer is no more than a half away. -/
theorem roundsTo_nearestWhole (number : PlainNumber) : number.RoundsTo number.nearestWhole := by
  have power := Decimal.ten_pow_pos number.places.length
  obtain ⟨below, above⟩ := roundHalfUp_near number.size power
  have same : roundHalfUp number.size (10 ^ number.places.length) = number.nearest := rfl
  rw [same] at below above
  constructor
  · rw [nearestWhole, Sign.natAbs_apply_sub]
    omega
  · rw [nearestWhole, Sign.natAbs_apply_sub, Sign.natAbs_apply]
    omega

end Nearest

section Reading

theorem isMagnitude_unsigned (number : PlainNumber) : IsMagnitude number.unsigned := by
  have whole := number.whole_digits.isMagnitude number.whole_ne_nil
  unfold unsigned
  split
  · exact whole
  · exact whole.append (.cons rfl number.places_digits.plain)

/-- A number without a point is read as an integer. -/
theorem readInteger?_integral (integral : number.places = []) :
    readInteger? number.text = some number.nearestWhole := by
  have run : number.whole ≠ [] ∧ number.whole.all Char.isDigit = true :=
    ⟨number.whole_ne_nil, List.all_eq_true.mpr number.whole_digits⟩
  have unsigned_eq : number.unsigned = number.whole := if_pos integral
  have magnitude := number.isMagnitude_unsigned
  have nearest : number.nearest = numberOf number.whole := by
    rw [nearest_eq, integral]
    rfl
  rw [nearestWhole, nearest, text]
  rw [unsigned_eq] at magnitude ⊢
  cases number.sign with
  | plus | minus => exact if_pos run
  | bare =>
      change readInteger? number.whole = _
      unfold readInteger?
      split
      · rename_i same
        exact absurd same (magnitude.ne_cons rfl _)
      · rename_i same
        exact absurd same (magnitude.ne_cons rfl _)
      · exact if_pos run

/-- A point has no place in an integer. -/
theorem readInteger?_pointed (pointed : number.places ≠ []) : readInteger? number.text = none := by
  have noRun : ¬ (number.unsigned ≠ [] ∧ number.unsigned.all Char.isDigit = true) := by
    rintro ⟨_, digits⟩
    have isMember : '.' ∈ number.unsigned := by
      rw [unsigned, if_neg pointed]
      exact List.mem_append_right _ List.mem_cons_self
    exact absurd (List.all_eq_true.mp digits '.' isMember) (by decide)
  have magnitude := number.isMagnitude_unsigned
  rw [text]
  cases number.sign with
  | plus | minus => exact if_neg noRun
  | bare =>
      change readInteger? number.unsigned = _
      unfold readInteger?
      split
      · rename_i same
        exact absurd same (magnitude.ne_cons rfl _)
      · rename_i same
        exact absurd same (magnitude.ne_cons rfl _)
      · exact if_neg noRun

/-- A number is read digit by digit behind its sign. -/
theorem readPlain?_text (number : PlainNumber) :
    Decimal.readPlain? number.text =
      (Decimal.readDigits? false false ⟨0, 0⟩ number.unsigned).bind fun read =>
        Decimal.ofResult? number.sign.isMinus read.mantissa read.scale := by
  rw [text]
  cases number.sign with
  | plus | minus => rfl
  | bare => exact Decimal.readPlain?_of_unsigned number.isMagnitude_unsigned

/-- A plain number has no exponent. -/
theorem no_exponent (number : PlainNumber) :
    ∀ char ∈ number.text, (char != 'e' && char != 'E') = true := by
  have ofDigit {char : Char} (isDigit : char.isDigit = true) :
      (char != 'e' && char != 'E') = true := by
    rw [Bool.and_eq_true, bne_iff_ne, bne_iff_ne]
    constructor <;> rintro rfl <;> cases isDigit
  intro char isMember
  rcases List.mem_append.mp isMember with inSign | inUnsigned
  · generalize number.sign = sign at inSign
    cases sign <;> simp only [Sign.text, List.mem_cons, List.not_mem_nil, or_false] at inSign <;>
      subst inSign <;> rfl
  · unfold unsigned at inUnsigned
    split at inUnsigned
    · exact ofDigit (number.whole_digits char inUnsigned)
    · rcases List.mem_append.mp inUnsigned with inWhole | behind
      · exact ofDigit (number.whole_digits char inWhole)
      · rcases List.mem_cons.mp behind with rfl | inPlaces
        · rfl
        · exact ofDigit (number.places_digits char inPlaces)

/-- Without an exponent, only one of the two readers of decimal numbers has a part in it. -/
theorem read?_text (number : PlainNumber) :
    Decimal.read? number.text = Decimal.readPlain? number.text := by
  have noRest : number.text.span (fun char => char != 'e' && char != 'E') = (number.text, []) := by
    rw [List.span_eq_takeWhile_dropWhile, List.takeWhile_eq_self_iff.mpr number.no_exponent,
      List.dropWhile_eq_nil_iff.mpr number.no_exponent]
  have unscientific : Decimal.readScientific? number.text = none := by
    unfold Decimal.readScientific?
    rw [noRest]
    dsimp only
    cases Decimal.readPlain? number.text <;> rfl
  rw [Decimal.read?, unscientific]
  cases Decimal.readPlain? number.text <;> rfl

end Reading

section Rounding

/-- What has been read of a number, as far as it matters for the integer next to it. -/
structure ReadsAs (number : PlainNumber) (magnitude : Nat) (read : Decimal.Digits) : Prop where
  reads : Decimal.readDigits? false false ⟨0, 0⟩ number.unsigned = some read
  small : read.mantissa < Decimal.mantissaLimit
  room : read.scale ≤ Decimal.maxScale
  rounds : roundHalfUp read.mantissa (10 ^ read.scale) = magnitude

/-- The digit that there is no room for rounds those in front of it. -/
theorem readDigits_split {kept dropped : List Char} {next : Char}
    (split : number.places = kept ++ next :: dropped)
    (stops : Decimal.StopsAt number.whole kept next) :
    Decimal.readDigits? false false ⟨0, 0⟩ number.unsigned =
      Decimal.Digits.roundBy? ⟨numberOf (number.whole ++ kept), kept.length⟩ (digitValue next) := by
  have digits := number.places_digits
  have pointed : number.places ≠ [] := by
    rw [split]
    exact List.append_ne_nil_of_right_ne_nil _ nofun
  rw [unsigned, if_neg pointed, split]
  rw [split] at digits
  exact Decimal.readDigits_stopsAt number.whole_digits number.whole_ne_nil digits stops

/-- The digits in front of the point and those that are kept behind it, as parts of a mantissa. -/
theorem mantissa_parts {kept dropped : List Char} {next : Char}
    (split : number.places = kept ++ next :: dropped) :
    numberOf (number.whole ++ kept) / 10 ^ kept.length = numberOf number.whole ∧
      numberOf (number.whole ++ kept) % 10 ^ kept.length = numberOf kept := by
  have digits := number.places_digits
  rw [split] at digits
  have below : numberOf kept < 10 ^ kept.length :=
    AllDigits.numberOf_lt (List.forall_mem_append.mp digits).1
  rw [numberOf_append, Nat.mul_comm]
  refine ⟨?_, ?_⟩
  · rw [Nat.mul_add_div (Decimal.ten_pow_pos _), Nat.div_eq_of_lt below, Nat.add_zero]
  · rw [Nat.mul_add_mod, Nat.mod_eq_of_lt below]

/-- A number that is rounded to a half when it is read becomes the next larger magnitude. -/
theorem RoundsTwice.readsAs (twice : number.RoundsTwice) :
    ∃ read, number.ReadsAs (number.nearest + 1) read := by
  obtain ⟨kept, next, dropped, split, stops, short, up⟩ := twice
  obtain ⟨quotient, remainder⟩ := mantissa_parts split
  have isShort : Decimal.Digits.IsShortOfHalf ⟨numberOf (number.whole ++ kept), kept.length⟩ := by
    rw [Decimal.Digits.IsShortOfHalf, remainder]
    exact short
  obtain ⟨rounded, rounds, nearest⟩ :=
    Decimal.roundHalfUp_roundBy_of_short stops.small stops.room isShort up
  have inRange := Decimal.roundBy?_inRange stops.small stops.room rounds
  refine ⟨rounded, (readDigits_split split stops).trans rounds, inRange.1, inRange.2, ?_⟩
  have notHalf : ¬ 10 ^ kept.length ≤ 2 * numberOf kept + 1 := by omega
  rw [nearest, quotient, nearest_of_split split, if_pos up, if_neg notHalf]

theorem RoundsTwice.pointed (twice : number.RoundsTwice) : number.places ≠ [] := by
  obtain ⟨kept, next, dropped, split, _⟩ := twice
  rw [split]
  exact List.append_ne_nil_of_right_ne_nil _ nofun

theorem whole_le_nearest (number : PlainNumber) : numberOf number.whole ≤ number.nearest := by
  rw [nearest_eq]
  split <;> omega

/-- A number that can be read and is not rounded twice is read as the integer next to it. -/
theorem exists_readsAs (pointed : number.places ≠ [])
    (small : number.nearest < Decimal.mantissaLimit) (once : ¬ number.RoundsTwice) :
    ∃ read, number.ReadsAs number.nearest read := by
  have wholeSmall : numberOf (number.whole ++ []) < Decimal.mantissaLimit := by
    rw [List.append_nil]
    exact Nat.lt_of_le_of_lt number.whole_le_nearest small
  rcases Decimal.fits_or_stopsAt number.places (Nat.zero_le _) wholeSmall with
    ⟨room, fits⟩ | ⟨kept, next, dropped, split, stops⟩
  · rw [List.nil_append] at room fits
    refine ⟨⟨numberOf (number.whole ++ number.places), number.places.length⟩, ?_, fits, room, rfl⟩
    rw [unsigned, if_neg pointed]
    exact Decimal.readDigits_around number.whole_digits number.places_digits number.whole_ne_nil
      room fits
  · rw [List.nil_append] at split
    obtain ⟨quotient, remainder⟩ := mantissa_parts split
    have reads := readDigits_split split stops
    rcases Option.eq_none_or_eq_some (Decimal.Digits.roundBy?
      ⟨numberOf (number.whole ++ kept), kept.length⟩ (digitValue next)) with
      fails | ⟨rounded, rounds⟩
    · obtain ⟨up, largest, noPlace⟩ := Decimal.roundBy?_eq_none_iff.mp fails
      obtain rfl := List.length_eq_zero_iff.mp noPlace
      rw [List.append_nil] at largest
      have nearest := nearest_of_split split
      rw [if_pos up, if_pos (by decide)] at nearest
      exact absurd small (by rw [nearest]; exact Nat.not_lt.mpr largest)
    · obtain ⟨inRange, room⟩ := Decimal.roundBy?_inRange stops.small stops.room rounds
      refine ⟨rounded, reads.trans rounds, inRange, room, ?_⟩
      rw [nearest_of_split split]
      have exactly := Decimal.roundHalfUp_roundBy stops.small stops.room ?_ rounds
      · rwa [quotient, remainder] at exactly
      · rintro ⟨short, up⟩
        rw [Decimal.Digits.IsShortOfHalf, remainder] at short
        exact once ⟨kept, next, dropped, split, stops, short, up⟩

/-- Behind the largest number of digits in front of a point there is no room for places. -/
theorem eq_nil_of_largest {front : List Char}
    (largest : Decimal.mantissaLimit ≤ numberOf number.whole + 1)
    (small : numberOf (number.whole ++ front) < Decimal.mantissaLimit) : front = [] := by
  cases front with
  | nil => rfl
  | cons first rest =>
      have power := Decimal.ten_pow_pos rest.length
      have shifted :
          numberOf number.whole * 10 ≤ numberOf number.whole * 10 ^ (rest.length + 1) := by
        refine Nat.mul_le_mul_left _ ?_
        rw [Nat.pow_succ]
        omega
      rw [numberOf_append, List.length_cons] at small
      unfold Decimal.mantissaLimit at largest small
      omega

/-- A magnitude with a point that is too large is not read as a decimal number. -/
theorem readDigits_of_large (pointed : number.places ≠ [])
    (large : Decimal.mantissaLimit ≤ number.nearest) :
    Decimal.readDigits? false false ⟨0, 0⟩ number.unsigned = none := by
  rw [unsigned, if_neg pointed]
  by_cases wholeSmall : numberOf number.whole < Decimal.mantissaLimit
  · -- Only rounding makes the number too large, so there must be a half or more behind the point.
    have largest : Decimal.mantissaLimit ≤ numberOf number.whole + 1 := by
      have nearest := number.nearest_eq
      split at nearest <;> omega
    have noPlaces : numberOf (number.whole ++ []) < Decimal.mantissaLimit := by
      rwa [List.append_nil]
    rcases Decimal.fits_or_stopsAt number.places (Nat.zero_le _) noPlaces with
      ⟨_, fits⟩ | ⟨kept, next, dropped, split, stops⟩
    · exact absurd (eq_nil_of_largest largest fits) pointed
    · rw [List.nil_append] at split
      obtain rfl := eq_nil_of_largest largest stops.small
      have reads := readDigits_split split stops
      rw [unsigned, if_neg pointed] at reads
      rw [reads, Decimal.roundBy?_eq_none_iff, List.append_nil]
      refine ⟨Nat.le_of_not_lt fun down => ?_, largest, rfl⟩
      have nearest := nearest_of_split split
      rw [if_neg (Nat.not_le.mpr down), if_neg (by decide)] at nearest
      omega
  · exact Decimal.readDigits_large number.whole_digits (by decide) (Nat.not_lt.mp wholeSmall)

/-- A sign and digits that are in range make up a number, which is rounded by its magnitude. -/
theorem exists_round_ofResult? (negative : Bool) {mantissa scale : Nat}
    (small : mantissa < Decimal.mantissaLimit) (room : scale ≤ Decimal.maxScale) :
    ∃ decimal, Decimal.ofResult? negative mantissa scale = some decimal ∧
      decimal.round = if negative then -(roundHalfUp mantissa (10 ^ scale) : Int)
        else roundHalfUp mantissa (10 ^ scale) := by
  obtain ⟨decimal, isResult, scaleIs, signedIs⟩ :=
    Decimal.exists_signed_ofResult? negative small room
  refine ⟨decimal, isResult, ?_⟩
  have unsigned : roundHalfAway mantissa (10 ^ scale) = roundHalfUp mantissa (10 ^ scale) :=
    if_neg (by omega)
  rw [Decimal.round, signedIs, scaleIs]
  cases negative with
  | false => exact unsigned
  | true =>
      have opposite := roundHalfAway_neg mantissa _ (Decimal.ten_pow_pos scale)
      rw [unsigned] at opposite
      exact opposite

/-- What has been read of a number with a point tells the integer that it is rounded to. -/
theorem readRounded?_of_readsAs {magnitude : Nat} {read : Decimal.Digits}
    (pointed : number.places ≠ []) (readsAs : number.ReadsAs magnitude read) :
    Value.readRounded? number.text = some (number.sign.apply magnitude) := by
  obtain ⟨decimal, isDecimal, rounds⟩ :=
    exists_round_ofResult? number.sign.isMinus readsAs.small readsAs.room
  unfold Value.readRounded?
  rw [readInteger?_pointed pointed, read?_text, readPlain?_text, readsAs.reads]
  simp only [Option.bind_some, isDecimal, Option.map_some, rounds, readsAs.rounds, Sign.apply]

/-- A number that is too large is not read at all. -/
theorem readRounded?_of_tooLarge (tooLarge : number.TooLarge) :
    Value.readRounded? number.text = none := by
  have unread (large : Decimal.readDigits? false false ⟨0, 0⟩ number.unsigned = none) :
      (Decimal.read? number.text).map Decimal.round = none := by
    rw [read?_text, readPlain?_text, large]
    rfl
  unfold TooLarge at tooLarge
  unfold Value.readRounded?
  by_cases integral : number.places = []
  · rw [if_pos integral] at tooLarge
    rw [readInteger?_integral integral]
    dsimp only
    rw [if_neg tooLarge]
    apply unread
    have nearest := number.nearest_eq
    rw [integral, if_neg (by decide)] at nearest
    have size := number.sign.natAbs_apply number.nearest
    have large : Decimal.mantissaLimit ≤ numberOf number.whole := by
      unfold nearestWhole at tooLarge
      unfold Decimal.mantissaLimit
      omega
    have unreadDigits :
        Decimal.readDigits? false false ⟨0, 0⟩ (number.whole ++ []) = none :=
      Decimal.readDigits_large number.whole_digits (by decide) large
    rw [List.append_nil] at unreadDigits
    rwa [unsigned, if_pos integral]
  · rw [if_neg integral] at tooLarge
    rw [readInteger?_pointed integral]
    exact unread (readDigits_of_large integral tooLarge)

/-- A number that is neither too large nor rounded twice is read as the integer next to it. -/
theorem readRounded?_exact (readable : ¬ number.TooLarge) (once : ¬ number.RoundsTwice) :
    Value.readRounded? number.text = some number.nearestWhole := by
  unfold TooLarge at readable
  by_cases integral : number.places = []
  · rw [if_pos integral, Decidable.not_not] at readable
    unfold Value.readRounded?
    rw [readInteger?_integral integral]
    exact if_pos readable
  · rw [if_neg integral, Nat.not_le] at readable
    obtain ⟨read, readsAs⟩ := exists_readsAs integral readable once
    exact readRounded?_of_readsAs integral readsAs

end Rounding

end PlainNumber

namespace Value

variable {target : DataType} {text : String} {number : PlainNumber}

/-- A string is converted to the integer it is read as, or overflows. -/
theorem fitsOrOverflows_of_readRounded? {whole : Int} (isWhole : target.isWhole = true)
    (reads : readRounded? (trimmed text) = some whole) :
    FitsOrOverflows target whole ((varchar text).convertTo target) := by
  have converts : (varchar text).convertTo target =
      (varchar text).convertToWhole target (ofWhole? target) := by
    rcases DataType.isWhole_iff.mp isWhole with rfl | rfl
    · rfl
    · rfl
  rw [converts]
  exact fitsOrOverflows_convertToWhole reads

/-- A string that is not read as a number fails to convert to an integer. -/
theorem convertTo_of_unread (isWhole : target.isWhole = true)
    (unread : readRounded? (trimmed text) = none) :
    (varchar text).convertTo target = .error (.conversion text target) := by
  have counts : (varchar text).toWhole? = none := unread
  have displayed : (varchar text).display = text := String.ofList_toList
  have fails : (varchar text).convertToWhole target (ofWhole? target) =
      .error (.conversion text target) := by
    rw [convertToWhole, counts, conversionFailure, displayed]
  rcases DataType.isWhole_iff.mp isWhole with rfl | rfl
  · exact fails
  · exact fails

/-- Integers that are both out of range overflow alike. -/
theorem FitsOrOverflows.of_not_fits {type : DataType} {whole other : Int} {outcome : Outcome Value}
    (reports : FitsOrOverflows type whole outcome) (wholeTooLarge : ¬ type.Fits whole)
    (otherTooLarge : ¬ type.Fits other) : FitsOrOverflows type other outcome := by
  obtain ⟨computation, rfl⟩ := reports.overflow.mpr wholeTooLarge
  refine ⟨⟨?_, fun fits => absurd fits otherTooLarge⟩, ⟨fun _ => otherTooLarge, fun _ => ⟨_, rfl⟩⟩⟩
  rintro ⟨_, succeeds, _⟩
  cases succeeds

/-- A number is reported by a value or as an overflow, and never as a failure to convert. -/
theorem not_fitsOrOverflows_conversion {type : DataType} {whole : Int} (written : String)
    (target : DataType) : ¬ FitsOrOverflows type whole (.error (.conversion written target)) := by
  intro reports
  by_cases fits : type.Fits whole
  · obtain ⟨_, succeeds, _⟩ := reports.value.mpr fits
    cases succeeds
  · obtain ⟨_, overflows⟩ := reports.overflow.mpr fits
    cases overflows

/-- An outcome reports one integer, if that is in range. -/
theorem FitsOrOverflows.eq_of_fits {type : DataType} {whole other : Int} {outcome : Outcome Value}
    (reports : FitsOrOverflows type whole outcome)
    (otherReports : FitsOrOverflows type other outcome) (fits : type.Fits whole) :
    whole = other := by
  obtain ⟨value, isValue, _, counts⟩ := reports.value.mpr fits
  have otherCounts := otherReports.toWhole isValue
  rw [counts] at otherCounts
  exact Option.some.inj otherCounts

/-- An integer further from zero does not fit where a nearer one does not. -/
theorem not_fits_succ (isWhole : target.isWhole = true) {sign : Sign} {magnitude : Nat}
    (tooLarge : ¬ target.Fits (sign.apply magnitude)) :
    ¬ target.Fits (sign.apply (magnitude + 1)) := by
  unfold Sign.apply at tooLarge ⊢
  rcases DataType.isWhole_iff.mp isWhole with rfl | rfl <;>
    cases sign.isMinus <;>
    simp only [DataType.Fits, Bool.false_eq_true, ↓reduceIte] at tooLarge ⊢ <;>
    omega

/-- A string that is a plain number but for blanks around it is converted to the integer next to
that number, half away from zero, or overflows if the type does not have that integer. The one
exception is a number that is too large to be read, which does not convert at all, and the other
one that makes up a half when its places are rounded, which becomes the next larger magnitude. -/
theorem convertTo_whole_of_plainNumber (isWhole : target.isWhole = true)
    (isNumber : trimmed text = number.text) :
    number.RoundsTo number.nearestWhole ∧
      (FitsOrOverflows target number.nearestWhole ((varchar text).convertTo target) ↔
        ¬ number.TooLarge ∧ ¬ (number.RoundsTwice ∧ target.Fits number.nearestWhole)) ∧
      (number.TooLarge →
        (varchar text).convertTo target = .error (.conversion text target)) ∧
      (number.RoundsTwice →
        FitsOrOverflows target (number.sign.apply (number.nearest + 1))
          ((varchar text).convertTo target)) := by
  have failsIfLarge (tooLarge : number.TooLarge) :
      (varchar text).convertTo target = .error (.conversion text target) :=
    convertTo_of_unread isWhole (by rw [isNumber, PlainNumber.readRounded?_of_tooLarge tooLarge])
  have movesIfTwice (twice : number.RoundsTwice) : FitsOrOverflows target
      (number.sign.apply (number.nearest + 1)) ((varchar text).convertTo target) := by
    obtain ⟨read, readsAs⟩ := twice.readsAs
    apply fitsOrOverflows_of_readRounded? isWhole
    rw [isNumber, PlainNumber.readRounded?_of_readsAs twice.pointed readsAs]
  refine ⟨number.roundsTo_nearestWhole, ⟨fun exactly => ⟨fun tooLarge => ?_, ?_⟩, ?_⟩, failsIfLarge,
    movesIfTwice⟩
  · rw [failsIfLarge tooLarge] at exactly
    exact not_fitsOrOverflows_conversion text target exactly
  · rintro ⟨twice, fits⟩
    have same := congrArg Int.natAbs (exactly.eq_of_fits (movesIfTwice twice) fits)
    rw [PlainNumber.nearestWhole, Sign.natAbs_apply, Sign.natAbs_apply] at same
    exact absurd same.symm (Nat.succ_ne_self _)
  · rintro ⟨readable, noLoss⟩
    by_cases twice : number.RoundsTwice
    · have tooLarge : ¬ target.Fits number.nearestWhole := fun fits => noLoss ⟨twice, fits⟩
      exact (movesIfTwice twice).of_not_fits (not_fits_succ isWhole tooLarge) tooLarge
    · apply fitsOrOverflows_of_readRounded? isWhole
      rw [isNumber, PlainNumber.readRounded?_exact readable twice]

/-- The least `INTEGER` and less than a half more is rounded to it. Zero and less than a half is
rounded up all the same if its places are a half once they are cut to those there is room for. -/
theorem convertTo_integer_of_plainNumber :
    let least : PlainNumber := ⟨.minus, "2147483648".toList, ['4'],
      List.all_eq_true.mp rfl, nofun, List.all_eq_true.mp rfl⟩
    let almostHalf : PlainNumber := ⟨.bare, ['0'], '4' :: List.replicate 27 '9' ++ ['5'],
      List.all_eq_true.mp rfl, nofun, List.all_eq_true.mp rfl⟩
    DataType.integer.isWhole = true ∧
      trimmed "\t-2147483648.4 " = least.text ∧ least.nearestWhole = -2147483648 ∧
      (∃ value, (varchar "\t-2147483648.4 ").convertTo .integer = .ok value ∧
        value.type = .integer ∧ value.toWhole? = some (-2147483648)) ∧
      trimmed "0.49999999999999999999999999995" = almostHalf.text ∧ almostHalf.nearestWhole = 0 ∧
      ∃ value, (varchar "0.49999999999999999999999999995").convertTo .integer = .ok value ∧
        value.type = .integer ∧ value.toWhole? = some 1 := by
  intro least almostHalf
  have isWhole : DataType.integer.isWhole = true := rfl
  have leastIs : trimmed "\t-2147483648.4 " = least.text := rfl
  have leastWhole : least.nearestWhole = -2147483648 := by decide
  have almostIs : trimmed "0.49999999999999999999999999995" = almostHalf.text := rfl
  have small : ¬ least.TooLarge := by
    unfold PlainNumber.TooLarge
    decide
  have once : ¬ least.RoundsTwice := by
    rintro ⟨kept, next, dropped, split, -, half, -⟩
    cases kept with
    | nil => exact absurd half (by decide)
    | cons _ kept =>
        have none : [] = kept ++ next :: dropped := (List.cons.inj split).2
        exact absurd none.symm (List.append_ne_nil_of_right_ne_nil _ nofun)
  have twice : almostHalf.RoundsTwice :=
    ⟨'4' :: List.replicate 27 '9', '5', [], rfl, ⟨by decide, by decide, .inl rfl⟩, by decide,
      by decide⟩
  refine ⟨isWhole, leastIs, leastWhole, ?_, almostIs, by decide, ?_⟩
  · have converts :=
      (convertTo_whole_of_plainNumber isWhole leastIs).2.1.mpr ⟨small, fun twice => once twice.1⟩
    rw [leastWhole] at converts
    exact converts.value.mpr ⟨by decide, by decide⟩
  · have converts := (convertTo_whole_of_plainNumber isWhole almostIs).2.2.2 twice
    have moves : almostHalf.sign.apply (almostHalf.nearest + 1) = 1 := by decide
    rw [moves] at converts
    exact converts.value.mpr ⟨by decide, by decide⟩

/-- An integer of 128 bits is out of range of `BIGINT`, but it is reported as no number at all. -/
theorem convertTo_bigint_of_tooLarge :
    let large : PlainNumber := ⟨.bare, "170141183460469231731687303715884105728".toList, [],
      List.all_eq_true.mp rfl, nofun, nofun⟩
    trimmed "170141183460469231731687303715884105728" = large.text ∧
      large.nearestWhole = 2 ^ (127 : Nat) ∧
      (varchar "170141183460469231731687303715884105728").convertTo .bigint =
        .error (.conversion "170141183460469231731687303715884105728" .bigint) ∧
      ¬ FitsOrOverflows .bigint large.nearestWhole
        ((varchar "170141183460469231731687303715884105728").convertTo .bigint) := by
  intro large
  have fails : (varchar "170141183460469231731687303715884105728").convertTo .bigint =
      .error (.conversion "170141183460469231731687303715884105728" .bigint) := rfl
  refine ⟨rfl, by decide, fails, ?_⟩
  rw [fails]
  exact not_fitsOrOverflows_conversion _ _

end Value

end SqlScalar
