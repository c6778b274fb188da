import SqlScalar.Calendar.Reading
import SqlScalar.Proofs.WrittenLiterals

/-! # Reading digits

A number written in digits is read back from the front of a text, as long as no more digits
follow than may belong to it. Texts without blanks at their ends are left as they are when
blanks are taken away there.
-/

namespace SqlScalar.Text

section Runs

variable {run rest : List Char}

/-- A text that does not start with a digit. -/
def NoDigit (text : List Char) : Prop :=
  ∀ first ∈ text.head?, first.isDigit = false

theorem noDigit_nil : NoDigit [] :=
  nofun

theorem noDigit_cons {char : Char} (other : char.isDigit = false) (text : List Char) :
    NoDigit (char :: text) := by
  rintro first ⟨⟩
  exact other

/-- Where there is no digit none is taken off. -/
theorem takeDigits_of_noDigit (limit : Nat) (stops : NoDigit rest) :
    takeDigits limit rest = ([], rest) := by
  cases limit with
  | zero => rfl
  | succ limit =>
      cases rest with
      | nil => rfl
      | cons first rest =>
          have other : ¬ first.isDigit = true := by
            rw [stops first rfl]
            decide
          exact if_neg other

/-- Digits are taken off the front of a text if there are no more of them than wanted, or none
behind as many as wanted. -/
theorem takeDigits_run {limit : Nat} (digits : AllDigits run) (fits : run.length ≤ limit)
    (stops : run.length = limit ∨ NoDigit rest) : takeDigits limit (run ++ rest) = (run, rest) := by
  induction run generalizing limit with
  | nil =>
      rcases stops with rfl | stops
      · rfl
      · exact takeDigits_of_noDigit limit stops
  | cons first run ih =>
      cases limit with
      | zero => cases fits
      | succ limit =>
          obtain ⟨isDigit, restDigits⟩ := List.forall_mem_cons.mp digits
          have behind := ih restDigits (Nat.le_of_succ_le_succ fits) (stops.imp_left Nat.succ.inj)
          simp only [List.cons_append, takeDigits, isDigit, ↓reduceIte, behind]

/-- A run of digits is read as its number, if there are not too many and it ends where it has to. -/
theorem readNumber_run {limit : Nat} (digits : AllDigits run) (some : run ≠ [])
    (fits : run.length ≤ limit) (stops : run.length = limit ∨ NoDigit rest) :
    readNumber? limit (run ++ rest) = .some (numberOf run, rest) := by
  cases run with
  | nil => exact absurd rfl some
  | cons first run => simp only [readNumber?, takeDigits_run digits fits stops]

theorem numberOf_padZeros (width : Nat) (text : List Char) :
    numberOf (padZeros width text) = numberOf text := by
  rw [numberOf, padZeros, Nat.ofDigitChars_append, Nat.ofDigitChars_replicate_zero, numberOf]
  rfl

theorem numberOf_padded (width number : Nat) :
    numberOf (padZeros width (digits number)) = number := by
  rw [numberOf_padZeros, numberOf_digits]

theorem length_padZeros (width : Nat) (text : List Char) :
    (padZeros width text).length = max width text.length := by
  simp only [padZeros, List.length_append, List.length_replicate]
  omega

/-- A number with no more digits than wanted has just as many once zeros are put in front. -/
theorem length_padded {width number : Nat} (wide : 0 < width) (below : number < 10 ^ width) :
    (padZeros width (digits number)).length = width := by
  have short : (digits number).length ≤ width :=
    (Nat.length_toDigits_le_iff (by decide) wide).mpr below
  rw [length_padZeros, Nat.max_eq_left short]

theorem padded_ne_nil (width number : Nat) : padZeros width (digits number) ≠ [] := by
  have positive : 0 < (digits number).length := Nat.length_toDigits_pos
  rw [← List.length_pos_iff, length_padZeros]
  omega

/-- A number of as many digits as wanted is read back whatever follows. -/
theorem readNumber_padded {width number : Nat} (wide : 0 < width) (below : number < 10 ^ width)
    (rest : List Char) :
    readNumber? width (padZeros width (digits number) ++ rest) = some (number, rest) := by
  have length := length_padded wide below
  rw [readNumber_run (allDigits_padZeros _ (allDigits_digits number)) (padded_ne_nil width number)
    (Nat.le_of_eq length) (.inl length), numberOf_padded]

/-- A number of any size is read back if no digit follows. -/
theorem readNumber_unbounded (width number : Nat) {rest : List Char} (stops : NoDigit rest) :
    readNumber? (padZeros width (digits number) ++ rest).length
      (padZeros width (digits number) ++ rest) = some (number, rest) := by
  have fits : (padZeros width (digits number)).length ≤
      (padZeros width (digits number) ++ rest).length := by
    rw [List.length_append]
    exact Nat.le_add_right _ _
  rw [readNumber_run (allDigits_padZeros _ (allDigits_digits number)) (padded_ne_nil width number)
    fits (.inr stops), numberOf_padded]

theorem IsMagnitude.append_ne_cons {text : List Char} (magnitude : IsMagnitude text) {sign : Char}
    (other : sign.isDigit = false) (rest behind : List Char) : text ++ rest ≠ sign :: behind := by
  obtain ⟨first, after, rfl, digit⟩ := magnitude.starts
  rintro ⟨⟩
  rw [other] at digit
  cases digit

/-- A magnitude is not led by a sign. -/
theorem IsMagnitude.ne_cons {text : List Char} (magnitude : IsMagnitude text) {sign : Char}
    (other : sign.isDigit = false) (behind : List Char) : text ≠ sign :: behind := by
  have bare := magnitude.append_ne_cons other [] behind
  rwa [List.append_nil] at bare

/-- An integer is the one its digits and its sign stand for. -/
theorem readInteger_signedDigits (number : Int) :
    readInteger? (signedDigits number) = some number := by
  have magnitude : digits number.natAbs ≠ [] ∧ (digits number.natAbs).all Char.isDigit = true :=
    ⟨Nat.toDigits_ne_nil, List.all_eq_true.mpr (allDigits_digits _)⟩
  unfold signedDigits
  split
  · rename_i negative
    simp only [readInteger?, if_pos magnitude, numberOf_digits]
    congr 1
    omega
  · rename_i nonnegative
    have unsigned := isMagnitude_digits number.natAbs
    unfold readInteger?
    split
    · rename_i same
      exact absurd same (unsigned.ne_cons rfl _)
    · rename_i same
      exact absurd same (unsigned.ne_cons rfl _)
    · rw [if_pos magnitude, numberOf_digits]
      congr 1
      omega

end Runs

section Ends

variable {text left right : List Char}

/-- A text of characters none of which is blank. -/
def Visible (text : List Char) : Prop :=
  ∀ char ∈ text, isBlank char = false

theorem Visible.append (leftVisible : Visible left) (rightVisible : Visible right) :
    Visible (left ++ right) :=
  List.forall_mem_append.mpr ⟨leftVisible, rightVisible⟩

theorem Visible.cons {char : Char} (noBlank : isBlank char = false) (visible : Visible text) :
    Visible (char :: text) :=
  List.forall_mem_cons.mpr ⟨noBlank, visible⟩

theorem isBlank_of_isDigit {char : Char} (digit : char.isDigit = true) : isBlank char = false := by
  have code : 48 ≤ char.toNat ∧ char.toNat ≤ 57 := by
    simpa [Char.isDigit, UInt32.le_iff_toNat_le] using digit
  simp only [isBlank, Bool.or_eq_false_iff, Bool.and_eq_false_iff, beq_eq_false_iff_ne,
    decide_eq_false_iff_not]
  omega

theorem AllDigits.visible (digits : AllDigits text) : Visible text :=
  fun char isMember => isBlank_of_isDigit (digits char isMember)

theorem visible_padded (width number : Nat) : Visible (padZeros width (digits number)) :=
  (allDigits_padZeros width (allDigits_digits number)).visible

theorem visible_signedDigits (number : Int) : Visible (signedDigits number) := by
  have magnitude := (allDigits_digits number.natAbs).visible
  unfold signedDigits
  split
  · exact magnitude.cons rfl
  · exact magnitude

theorem skipBlanks_append (visible : Visible left) (some : left ≠ []) (rest : List Char) :
    skipBlanks (left ++ rest) = left ++ rest := by
  cases left with
  | nil => exact absurd rfl some
  | cons first left =>
      exact skipBlanks_cons_of_not_blank _ (visible first List.mem_cons_self)

/-- A text without blanks at the end keeps its end. -/
theorem dropTrailingBlanks_append (visible : Visible right) (some : right ≠ [])
    (front : List Char) : dropTrailingBlanks (front ++ right) = front ++ right := by
  have reversed : Visible right.reverse :=
    fun char isMember => visible char (List.mem_reverse.mp isMember)
  have kept := skipBlanks_append reversed (fun none => some (List.reverse_eq_nil_iff.mp none))
    front.reverse
  rw [skipBlanks, ← List.reverse_append] at kept
  rw [dropTrailingBlanks, kept, List.reverse_reverse]

/-- A text that starts and ends with a character that is not blank is left as it is. -/
theorem trim_append (leftVisible : Visible left) (leftSome : left ≠ [])
    (rightVisible : Visible right) (rightSome : right ≠ []) (middle : List Char) :
    trim (left ++ middle ++ right) = left ++ middle ++ right := by
  rw [trim, List.append_assoc, skipBlanks_append leftVisible leftSome, ← List.append_assoc,
    dropTrailingBlanks_append rightVisible rightSome]

/-- A text without blanks has none to trim. -/
theorem Visible.trim (visible : Visible text) : Text.trim text = text := by
  by_cases none : text = []
  · rw [none]
    rfl
  · have front := skipBlanks_append visible none []
    have behind := dropTrailingBlanks_append visible none []
    rw [List.append_nil] at front
    rw [List.nil_append] at behind
    rw [Text.trim, front, behind]

end Ends

end SqlScalar.Text
