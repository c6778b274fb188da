import SqlScalar.Proofs.TextConversion

/-! # Hexadecimal text

A string is converted to bytes if it consists of pairs of hexadecimal digits, apart from blanks
around it. One thing more is taken for a pair: a plus sign and a digit, which is read like a zero
and that digit. What has been read is written back in lower case.
-/

namespace SqlScalar

open Text

namespace Text.Hex

/-- The hexadecimal digits, letters in either case. -/
def digits : List Char :=
  "0123456789abcdefABCDEF".toList

/-- A text of pairs of hexadecimal digits, but that a pair may start with a plus sign. -/
structure Paired (text : List Char) : Prop where
  even : text.length % 2 = 0
  digit (place : Nat) (char : Char) (found : text[place]? = some char) :
    char ∈ digits ∨ char = '+' ∧ place % 2 = 0

/-- A character of a paired text as it is written back. -/
def written (char : Char) : Char :=
  if char = '+' then '0' else char.toLower

variable {char first second : Char} {value : Nat} {byte : UInt8} {text rest : List Char}

theorem digitValue?_of_mem : ∀ char ∈ digits, ∃ value, digitValue? char = some value := by
  have readable : digits.all (fun char => (digitValue? char).isSome) = true := by decide
  intro char isDigit
  exact Option.isSome_iff_exists.mp (List.all_eq_true.mp readable char isDigit)

/-- A character with a value is a digit, and its value is written as the same digit. -/
theorem mem_of_digitValue? (reads : digitValue? char = some value) :
    char ∈ digits ∧ value < 16 ∧ digit value = written char := by
  have below : char.toNat < 103 := by
    unfold digitValue? at reads
    grind
  have upTo : ∀ code < 103, ∀ value ∈ digitValue? (Char.ofNat code),
      Char.ofNat code ∈ digits ∧ value < 16 ∧ digit value = written (Char.ofNat code) := by
    decide
  rw [← Char.ofNat_toNat char] at reads ⊢
  exact upTo char.toNat below value reads

/-- The digits of a byte are those of its two halves. -/
theorem ofByte_ofNat {high low : Nat} (highSmall : high < 16) (lowSmall : low < 16) :
    ofByte (UInt8.ofNat (16 * high + low)) = [digit high, digit low] := by
  have number : (UInt8.ofNat (16 * high + low)).toNat = 16 * high + low := by
    rw [UInt8.toNat_ofNat']
    omega
  have highIs : (16 * high + low) / 16 = high := by omega
  have lowIs : (16 * high + low) % 16 = low := by omega
  rw [ofByte, number, highIs, lowIs]

/-- Two characters make a byte just if they are a pair, and the byte is written as that pair. -/
theorem byte?_eq_some (reads : byte? first second = some byte) :
    (first ∈ digits ∨ first = '+') ∧ second ∈ digits ∧
      ofByte byte = [written first, written second] := by
  unfold byte? at reads
  split at reads
  · rename_i high low highIs lowIs
    cases reads
    obtain ⟨firstDigit, highSmall, highWritten⟩ := mem_of_digitValue? highIs
    obtain ⟨secondDigit, lowSmall, lowWritten⟩ := mem_of_digitValue? lowIs
    rw [ofByte_ofNat highSmall lowSmall, highWritten, lowWritten]
    exact ⟨.inl firstDigit, secondDigit, rfl⟩
  · rename_i low _ lowIs
    split at reads
    · rename_i isPlus
      cases reads
      cases isPlus
      obtain ⟨secondDigit, lowSmall, lowWritten⟩ := mem_of_digitValue? lowIs
      have single : ofByte (UInt8.ofNat (16 * 0 + low)) = [digit 0, digit low] :=
        ofByte_ofNat (by decide) lowSmall
      rw [Nat.mul_zero, Nat.zero_add] at single
      rw [single, lowWritten]
      exact ⟨.inr rfl, secondDigit, rfl⟩
    · cases reads
  · cases reads

/-- A digit, or a plus sign, and a digit behind it make a byte. -/
theorem exists_byte? (firstIs : first ∈ digits ∨ first = '+') (secondIs : second ∈ digits) :
    ∃ byte, byte? first second = some byte := by
  obtain ⟨low, lowIs⟩ := digitValue?_of_mem second secondIs
  rcases firstIs with isDigit | rfl
  · obtain ⟨high, highIs⟩ := digitValue?_of_mem first isDigit
    exact ⟨_, by simp only [byte?, highIs, lowIs]; rfl⟩
  · have noDigit : digitValue? '+' = none := by decide
    exact ⟨_, by simp only [byte?, noDigit, lowIs, ↓reduceIte]; rfl⟩

theorem paired_nil : Paired [] where
  even := rfl
  digit place char found := by
    rw [List.getElem?_nil] at found
    cases found

/-- Behind a pair, the places of a text are shifted by two. -/
theorem paired_cons_cons :
    Paired (first :: second :: rest) ↔
      (first ∈ digits ∨ first = '+') ∧ second ∈ digits ∧ Paired rest := by
  constructor
  · intro paired
    have firstIs := paired.digit 0 first rfl
    have secondIs := paired.digit 1 second rfl
    refine ⟨firstIs.imp_right And.left, ?_, ?_, ?_⟩
    · apply secondIs.resolve_right
      rintro ⟨_, isEven⟩
      cases isEven
    · have even := paired.even
      simp only [List.length_cons] at even
      omega
    · intro place char found
      have shifted := paired.digit (place + 2) char found
      rw [Nat.add_mod_right] at shifted
      exact shifted
  · rintro ⟨firstIs, secondIs, paired⟩
    refine ⟨?_, ?_⟩
    · have even := paired.even
      simp only [List.length_cons]
      omega
    · intro place char found
      match place with
      | 0 =>
          cases found
          exact firstIs.imp_right fun isPlus => ⟨isPlus, rfl⟩
      | 1 =>
          cases found
          exact .inl secondIs
      | place + 2 =>
          rw [Nat.add_mod_right]
          exact paired.digit place char found

/-- Reading takes pairs, and what it reads is written as those pairs again. -/
theorem paired_of_read? {bytes : List UInt8} (reads : read? text = some bytes) :
    Paired text ∧ write bytes = text.map written := by
  induction text using read?.induct generalizing bytes with
  | case1 =>
      cases reads
      exact ⟨paired_nil, rfl⟩
  | case2 => cases reads
  | case3 first second rest ih =>
      obtain ⟨byte, byteIs, reads⟩ := Option.bind_eq_some_iff.mp reads
      obtain ⟨others, othersAre, reads⟩ := Option.bind_eq_some_iff.mp reads
      cases reads
      obtain ⟨firstIs, secondIs, byteWritten⟩ := byte?_eq_some byteIs
      obtain ⟨paired, othersWritten⟩ := ih othersAre
      refine ⟨paired_cons_cons.mpr ⟨firstIs, secondIs, paired⟩, ?_⟩
      rw [write] at othersWritten ⊢
      rw [List.flatMap_cons, byteWritten, othersWritten]
      rfl

/-- Paired text can be read. -/
theorem exists_read? (paired : Paired text) : ∃ bytes, read? text = some bytes := by
  induction text using read?.induct with
  | case1 => exact ⟨[], rfl⟩
  | case2 char => cases paired.even
  | case3 first second rest ih =>
      obtain ⟨firstIs, secondIs, paired⟩ := paired_cons_cons.mp paired
      obtain ⟨byte, byteIs⟩ := exists_byte? firstIs secondIs
      obtain ⟨bytes, reads⟩ := ih paired
      exact ⟨byte :: bytes, by simp only [read?, byteIs, reads]; rfl⟩

end Text.Hex

namespace Value

/-- A string is converted to bytes just if it is a text of pairs apart from blanks around it. The
bytes are converted back to its digits in lower case, with a zero for each plus sign. -/
theorem convertTo_varbinary_by_pairs (text : String) :
    (Hex.Paired (trimmed text) →
      ∃ bytes, (varchar text).convertTo .varbinary = .ok (varbinary bytes) ∧
        (varbinary bytes).convertTo .varchar =
          .ok (varchar (String.ofList ((trimmed text).map Hex.written)))) ∧
    (¬ Hex.Paired (trimmed text) →
      (varchar text).convertTo .varbinary = .error (.conversion text .varbinary)) := by
  have converts : (varchar text).convertTo .varbinary =
      (varchar text).converted .varbinary ((Hex.read? (trimmed text)).map varbinary) := rfl
  rw [converts]
  constructor
  · intro paired
    obtain ⟨bytes, reads⟩ := Hex.exists_read? paired
    obtain ⟨_, writes⟩ := Hex.paired_of_read? reads
    refine ⟨bytes, by rw [reads]; rfl, ?_⟩
    rw [← writes]
    rfl
  · intro unpaired
    have unread : Hex.read? (trimmed text) = none :=
      Option.eq_none_iff_forall_ne_some.mpr fun _ reads => unpaired (Hex.paired_of_read? reads).1
    have displayed : (varchar text).display = text := String.ofList_toList
    rw [unread, Option.map_none, converted, conversionFailure, displayed]

/-- A plus sign is no hexadecimal digit, but with a digit behind it it is converted to a byte. -/
theorem convertTo_varbinary_of_sign :
    (varchar "+1").convertTo .varbinary = .ok (varbinary [1]) ∧
      (varbinary [1]).convertTo .varchar = .ok (varchar "01") ∧
      ¬ ((∃ value, (varchar "+1").convertTo .varbinary = .ok value) ↔
        (trimmed "+1").length % 2 = 0 ∧ ∀ char ∈ trimmed "+1", char ∈ Hex.digits) := by
  refine ⟨rfl, rfl, fun exactly => ?_⟩
  have digits := (exactly.mp ⟨varbinary [1], rfl⟩).2
  exact absurd (digits '+' (by decide)) (by decide)

end Value

end SqlScalar
