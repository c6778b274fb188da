import SqlScalar.Proofs.OppositeCounts
import SqlScalar.Proofs.ReadingDecimals
import SqlScalar.Proofs.ReadingTimes
import SqlScalar.Value.Conversion

/-! # Conversion to text and back

A value that is converted to a string and back is the same value again. No written value has
blanks at its ends, so that taking them away in front of reading changes nothing.
-/

namespace SqlScalar

open Text Calendar

namespace Text.Hex

theorem digitValue_digit : ∀ value < 16, digitValue? (digit value) = some value := by
  decide

theorem isBlank_digit : ∀ value < 16, isBlank (digit value) = false := by
  decide

theorem halves_lt (byte : UInt8) : byte.toNat / 16 < 16 ∧ byte.toNat % 16 < 16 := by
  have small := byte.toNat_lt
  omega

/-- Bytes are read back from the digits they are written in. -/
theorem read_write (bytes : List UInt8) : read? (write bytes) = some bytes := by
  induction bytes with
  | nil => rfl
  | cons byte bytes ih =>
      obtain ⟨high, low⟩ := halves_lt byte
      have joined : UInt8.ofNat (16 * (byte.toNat / 16) + byte.toNat % 16) = byte := by
        rw [Nat.div_add_mod, UInt8.ofNat_toNat]
      have first : byte? (digit (byte.toNat / 16)) (digit (byte.toNat % 16)) = some byte := by
        simp only [byte?, digitValue_digit _ high, digitValue_digit _ low, joined]
      rw [write] at ih
      simp only [write, List.flatMap_cons, ofByte, List.cons_append, List.nil_append, read?, first,
        ih, Option.bind_eq_bind, Option.bind_some]

/-- Bytes are written without blanks. -/
theorem visible_write (bytes : List UInt8) : Visible (write bytes) := by
  intro char isMember
  obtain ⟨byte, -, written⟩ := List.mem_flatMap.mp isMember
  obtain ⟨high, low⟩ := halves_lt byte
  simp only [ofByte, List.mem_cons, List.not_mem_nil, or_false] at written
  rcases written with rfl | rfl
  · exact isBlank_digit _ high
  · exact isBlank_digit _ low

end Text.Hex

/-- The types whose values are written with nothing left out. -/
def DataType.writtenInFull : List DataType :=
  [.boolean, .integer, .bigint, .decimal, .time, .date, .timestamp, .varbinary]

namespace Value

/-- The same value again. A decimal number has the same digits and the same scale again, and
unless it is zero also the same sign. -/
def Again : Value → Value → Prop
  | decimal number, decimal again =>
      again.mantissa = number.mantissa ∧ again.scale = number.scale ∧
        (number.mantissa ≠ 0 → again.negative = number.negative)
  | value, again => again = value

/-- An integer of up to 128 bits is read as the number it is. -/
theorem readRounded_signedDigits {number : Int}
    (wide : -(2 ^ (127 : Nat) : Int) ≤ number ∧ number < 2 ^ (127 : Nat)) :
    readRounded? (signedDigits number) = some number := by
  simp only [readRounded?, readInteger_signedDigits, if_pos wide]

section Back

variable {value : Value} (inFull : value.type ∈ DataType.writtenInFull)

include inFull

/-- There are no blanks around what such a value is shown as. -/
theorem trimmed_display : trimmed value.display = value.text := by
  rw [trimmed, display, String.toList_ofList]
  cases value with
  | boolean truth => cases truth <;> decide
  | integer number => exact (visible_signedDigits number.toInt).trim
  | bigint number => exact (visible_signedDigits number.toInt).trim
  | decimal number => exact number.visible_text.trim
  | time clock => exact clock.visible_text.trim
  | date day => exact day.visible_text.trim
  | timestamp instant => exact instant.trim_text
  | varbinary bytes => exact (Hex.visible_write bytes).trim
  | _ => simp [type, DataType.writtenInFull] at inFull

/-- What a value is written as is read as the value again. -/
theorem convertAcross_display :
    ∃ again, (varchar value.display).convertAcross value.type = .ok again ∧
      value.Again again := by
  have read := trimmed_display inFull
  cases value with
  | boolean truth =>
      have again : readTruth? (boolean truth).text = some truth := by cases truth <;> rfl
      refine ⟨boolean truth, ?_, rfl⟩
      simp only [type, convertAcross, toBoolean?, read, again, converted, Option.map_some]
  | integer number =>
      have upper := number.toInt_lt
      have lower := number.le_toInt
      have again : readRounded? (integer number).text = some number.toInt :=
        readRounded_signedDigits (by omega)
      refine ⟨integer number, ?_, rfl⟩
      simp only [type, convertAcross, convertToWhole, toWhole?, read, again,
        narrow32?_eq_some.mpr rfl, Option.map_some]
  | bigint number =>
      have upper := number.toInt_lt
      have lower := number.le_toInt
      have again : readRounded? (bigint number).text = some number.toInt :=
        readRounded_signedDigits (by omega)
      refine ⟨bigint number, ?_, rfl⟩
      simp only [type, convertAcross, convertToWhole, toWhole?, read, again,
        narrow64?_eq_some.mpr rfl, Option.map_some]
  | decimal number =>
      have again : Decimal.read? (decimal number).text = some number.withoutNegativeZero :=
        number.read_text
      refine ⟨decimal number.withoutNegativeZero, ?_, rfl, rfl, ?_⟩
      · simp only [type, convertAcross, toDecimal?, read, again, converted, Option.map_some]
      · intro some
        simp only [Decimal.withoutNegativeZero, bne_iff_ne.mpr some, Bool.and_true]
  | time clock =>
      have again : TimeOfDay.read? (time clock).text = some clock := clock.read_text
      refine ⟨time clock, ?_, rfl⟩
      simp only [type, convertAcross, toTime?, read, again, converted, Option.map_some]
  | date day =>
      have again : Date.read? (date day).text = some day := day.read_text
      refine ⟨date day, ?_, rfl⟩
      simp only [type, convertAcross, toDate?, read, again, converted, Option.map_some]
  | timestamp instant =>
      have again : Timestamp.read? (timestamp instant).text = some instant := instant.read_text
      refine ⟨timestamp instant, ?_, rfl⟩
      simp only [type, convertAcross, toTimestamp?, read, again, converted, Option.map_some]
  | varbinary bytes =>
      have again : Hex.read? (varbinary bytes).text = some bytes := Hex.read_write bytes
      refine ⟨varbinary bytes, ?_, rfl⟩
      simp only [type, convertAcross, toBytes?, read, again, converted, Option.map_some]
  | _ => simp [type, DataType.writtenInFull] at inFull

end Back

end Value

end SqlScalar
