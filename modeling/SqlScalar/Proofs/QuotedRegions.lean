import SqlScalar.Expr.CallDraft
import SqlScalar.Proofs.Mentions
import SqlScalar.Proofs.WrittenLiterals

/-! # Quoted regions

What a scan of SQL text from the left that knows quotes and nothing else makes of it. A quote
opens a quoted region, which lasts up to the next quote that is not doubled, and two minus signs
side by side outside such regions open a comment. The text of an expression closes every region
it opens and opens no comment, whatever its literals hold.
-/

namespace SqlScalar

namespace Text

/-- Where a scan from the left stands. -/
inductive Scan where
  | outside
  | inside
  /-- Behind a quote in a quoted region, which closes it unless another quote follows. -/
  | closing
deriving DecidableEq

namespace Scan

/-- Where a scan stands behind one more character. Two quotes side by side are one quote in a
quoted region. -/
def step : Scan → Char → Scan
  | outside, char => if char = '\'' then inside else outside
  | inside, char => if char = '\'' then closing else inside
  | closing, char => if char = '\'' then inside else outside

/-- Where a scan stands behind a text. -/
def run (scan : Scan) (text : List Char) : Scan :=
  text.foldl step scan

/-- Whether two minus signs stand side by side outside the quoted regions of a text. -/
def OpensComment (scan : Scan) (text : List Char) : Prop :=
  ∃ before behind, text = before ++ '-' :: '-' :: behind ∧ scan.run before ≠ inside

/-- A text that closes every quoted region and opens no comment. -/
structure Harmless (scan : Scan) (text : List Char) : Prop where
  closes : scan.run text ≠ inside
  noComment : ¬ scan.OpensComment text

variable {scan : Scan} {char : Char} {text : List Char}

/-- A comment is opened by the first two characters or further on. -/
theorem opensComment_cons : scan.OpensComment (char :: text) ↔
    (char = '-' ∧ text.head? = some '-' ∧ scan ≠ inside) ∨
      (scan.step char).OpensComment text := by
  constructor
  · rintro ⟨before, behind, same, outer⟩
    cases before with
    | nil =>
        cases same
        exact .inl ⟨rfl, rfl, outer⟩
    | cons first before =>
        cases same
        exact .inr ⟨before, behind, rfl, outer⟩
  · rintro (⟨rfl, second, outer⟩ | ⟨before, behind, rfl, outer⟩)
    · obtain ⟨behind, rfl⟩ := List.head?_eq_some_iff.mp second
      exact ⟨[], behind, rfl, outer⟩
    · exact ⟨char :: before, behind, rfl, outer⟩

/-- A text is harmless if its first two characters open no comment and the rest is harmless from
there. -/
theorem harmless_cons : scan.Harmless (char :: text) ↔
    ¬ (char = '-' ∧ text.head? = some '-' ∧ scan ≠ inside) ∧
      (scan.step char).Harmless text := by
  constructor
  · rintro ⟨closes, noComment⟩
    rw [opensComment_cons, not_or] at noComment
    exact ⟨noComment.1, closes, noComment.2⟩
  · rintro ⟨noPair, closes, noComment⟩
    refine ⟨closes, ?_⟩
    rw [opensComment_cons, not_or]
    exact ⟨noPair, noComment⟩

theorem not_opensComment_nil : ¬ scan.OpensComment [] := by
  rintro ⟨before, behind, same, _⟩
  cases before <;> cases same

theorem harmless_nil : outside.Harmless [] :=
  ⟨nofun, not_opensComment_nil⟩

/-- Behind the quote that closes a region the scan goes on as if it were outside. -/
theorem harmless_closing : closing.Harmless text ↔ outside.Harmless text := by
  cases text with
  | nil => exact ⟨fun _ => harmless_nil, fun _ => ⟨nofun, not_opensComment_nil⟩⟩
  | cons first rest =>
      have same : closing.step first = outside.step first := rfl
      simp only [harmless_cons, same, ne_eq, reduceCtorEq, not_false_eq_true]

theorem harmless_quote : outside.Harmless ('\'' :: text) ↔ inside.Harmless text := by
  rw [harmless_cons]
  exact and_iff_right (fun pair => absurd pair.1 (by decide))

/-- The content of a quoted text keeps the scan inside, and the quote behind it leads out. -/
theorem harmless_content (content : List Char) (harmless : outside.Harmless text) :
    inside.Harmless (doubleQuotes content ++ '\'' :: text) := by
  have inner (first : Char) (rest : List Char) : inside.Harmless (first :: rest) ↔
      (inside.step first).Harmless rest := by
    rw [harmless_cons]
    exact and_iff_right (fun pair => pair.2.2 rfl)
  induction content with
  | nil => exact (inner _ _).mpr (harmless_closing.mpr harmless)
  | cons first content ih =>
      unfold doubleQuotes
      split
      · rename_i empty
        cases empty
      · rename_i same
        cases same
        refine (inner _ _).mpr (harmless_closing.mpr ?_)
        exact harmless_quote.mpr ih
      · rename_i other same
        cases same
        have stays : inside.step first = inside := if_neg other
        rw [List.cons_append, inner, stays]
        exact ih

end Scan

/-- A text without quotes and minus signs. -/
def Bare (text : List Char) : Prop :=
  ∀ char ∈ text, char ≠ '\'' ∧ char ≠ '-'

instance (text : List Char) : Decidable (Bare text) :=
  List.decidableBAll _ text

theorem Bare.append {left right : List Char} (leftBare : Bare left) (rightBare : Bare right) :
    Bare (left ++ right) :=
  List.forall_mem_append.mpr ⟨leftBare, rightBare⟩

/-- Digits are bare. -/
theorem AllDigits.bare {text : List Char} (digits : AllDigits text) : Bare text := by
  intro char isMember
  have digit := digits char isMember
  constructor
  · rintro rfl
    cases digit
  · rintro rfl
    cases digit

/-- A text with another character in front does not start with a minus sign. -/
theorem head?_cons_ne_minus {char : Char} {text : List Char} (other : char ≠ '-') :
    (char :: text).head? ≠ some '-' :=
  fun same => other (Option.some.inj same)

theorem Bare.head? {text : List Char} (bare : Bare text) : text.head? ≠ some '-' := by
  intro starts
  obtain ⟨rest, rfl⟩ := List.head?_eq_some_iff.mp starts
  exact (bare '-' List.mem_cons_self).2 rfl

/-- A text that does no harm in front of any harmless text, unless that starts with a minus
sign. -/
def Tidy (text : List Char) : Prop :=
  ∀ rest, rest.head? ≠ some '-' → Scan.outside.Harmless rest →
    Scan.outside.Harmless (text ++ rest)

namespace Tidy

variable {text left right : List Char} {char : Char}

theorem harmless (tidy : Tidy text) : Scan.outside.Harmless text := by
  have alone := tidy [] nofun Scan.harmless_nil
  rw [List.append_nil] at alone
  exact alone

theorem nil : Tidy [] :=
  fun _ _ harmless => harmless

/-- A tidy text with a character in front that is no quote and no minus sign is tidy. -/
theorem cons (noQuote : char ≠ '\'') (noMinus : char ≠ '-') (tidy : Tidy text) :
    Tidy (char :: text) := by
  intro rest starts harmless
  have stays : Scan.outside.step char = .outside := if_neg noQuote
  rw [List.cons_append, Scan.harmless_cons, stays]
  exact ⟨fun pair => noMinus pair.1, tidy rest starts harmless⟩

/-- A minus sign does no harm unless another one follows. -/
theorem minus (tidy : Tidy text) (noMinus : text.head? ≠ some '-') : Tidy ('-' :: text) := by
  intro rest starts harmless
  rw [List.cons_append, Scan.harmless_cons]
  refine ⟨fun pair => ?_, tidy rest starts harmless⟩
  cases text with
  | nil => exact starts pair.2.1
  | cons first text => exact noMinus pair.2.1

/-- Tidy texts make a tidy one, unless the second one starts with a minus sign. -/
theorem append (leftTidy : Tidy left) (rightTidy : Tidy right)
    (noMinus : right.head? ≠ some '-') : Tidy (left ++ right) := by
  intro rest starts harmless
  rw [List.append_assoc]
  refine leftTidy (right ++ rest) ?_ (rightTidy rest starts harmless)
  cases right with
  | nil => exact starts
  | cons first right => exact noMinus

theorem quoted (content : List Char) : Tidy (Text.quoted content) := by
  intro rest _ harmless
  have content := Scan.harmless_content content harmless
  rw [Text.quoted, List.append_assoc, List.cons_append]
  exact Scan.harmless_quote.mpr content

end Tidy

/-- A bare text in front of a tidy one makes a tidy one. -/
theorem Bare.tidy_append {left right : List Char} (bare : Bare left) (tidy : Tidy right) :
    Tidy (left ++ right) := by
  induction left with
  | nil => exact tidy
  | cons first rest ih =>
      obtain ⟨⟨noQuote, noMinus⟩, restBare⟩ := List.forall_mem_cons.mp bare
      exact (ih restBare).cons noQuote noMinus

theorem Bare.tidy {text : List Char} (bare : Bare text) : Tidy text := by
  have tidy := bare.tidy_append .nil
  rw [List.append_nil] at tidy
  exact tidy

theorem Bare.tidy_negative {text : List Char} (bare : Bare text) : Tidy ('-' :: text) :=
  bare.tidy.minus bare.head?

theorem bare_digits (number : Nat) : Bare (digits number) :=
  (allDigits_digits number).bare

theorem tidy_signedDigits (number : Int) : Tidy (signedDigits number) := by
  unfold signedDigits
  split
  · exact (bare_digits _).tidy_negative
  · exact (bare_digits _).tidy

/-- Digits with a point among them. -/
theorem bare_pointed {places : List Char} (digits : AllDigits places) (before : Nat) :
    Bare (places.take before ++ '.' :: places.drop before) := by
  have point : Bare ['.'] := by decide
  exact (digits.take before).bare.append (point.append (digits.drop before).bare)

end Text

open Text

/-- A decimal number in writing is tidy. -/
theorem Decimal.tidy_text (number : Decimal) : Tidy number.text := by
  have places := allDigits_padZeros (number.scale + 1) (allDigits_digits number.mantissa)
  have magnitude : Bare (pointed number.mantissa number.scale) := by
    unfold pointed
    dsimp only
    split
    · exact places.bare
    · exact bare_pointed places _
  unfold text
  dsimp only
  split
  · exact magnitude.tidy_negative
  · exact magnitude.tidy

namespace Floating

variable {format : FloatFormat} {run : List Char}

/-- Digits with a point are bare. -/
theorem bare_positional (digits : AllDigits run) (exponent : Int) :
    Bare (positional run exponent) := by
  unfold positional
  dsimp only
  split
  · have zeros : Bare (List.replicate exponent.toNat '0') := by
      intro char isMember
      rw [List.eq_of_mem_replicate isMember]
      decide
    have point : Bare ['.', '0'] := by decide
    exact (digits.bare.append zeros).append point
  · exact bare_pointed (allDigits_padZeros _ digits) _

/-- Digits with an exponent are tidy. Its minus sign stands alone. -/
theorem tidy_exponential (digits : AllDigits run) (leading : Int) :
    Tidy (exponential run leading) := by
  have exponent : Tidy ('e' :: signedDigits leading) :=
    (tidy_signedDigits leading).cons (by decide) (by decide)
  unfold exponential
  dsimp only
  split
  · exact exponent
  · exact digits.bare.tidy_append exponent
  · rename_i first rest _
    have point : Bare ['.'] := by decide
    obtain ⟨firstBare, fraction⟩ := List.forall_mem_cons.mp digits.bare
    have leads : Bare [first, '.'] := List.forall_mem_cons.mpr ⟨firstBare, point⟩
    exact (leads.append fraction).tidy_append exponent

/-- The magnitude of a floating-point number in writing is tidy. -/
theorem tidy_magnitudeText (format : FloatFormat) (units : Nat) :
    Tidy (magnitudeText format units) := by
  unfold magnitudeText
  split
  · have zero : Bare ['0', '.', '0'] := by decide
    exact zero.tidy
  · have digits := allDigits_normal (shortest format units)
    dsimp only
    split
    · exact (bare_positional digits _).tidy
    · exact tidy_exponential digits _

/-- A floating-point number in writing is tidy. -/
theorem tidy_text (number : Floating format) : Tidy number.text := by
  cases number with
  | nan =>
      have word : Bare ['N', 'a', 'N'] := by decide
      exact word.tidy
  | infinite negative =>
      have word : Bare ['i', 'n', 'f'] := by decide
      cases negative with
      | false => exact word.tidy
      | true => exact word.tidy_negative
  | finite negative units _ =>
      have magnitude := tidy_magnitudeText format units
      cases negative with
      | false => exact magnitude
      | true =>
          obtain ⟨first, rest, same, digit⟩ := (isMagnitude_magnitudeText format units).starts
          refine magnitude.minus ?_
          rw [same]
          rintro ⟨⟩
          cases digit

end Floating

/-- A literal is tidy, whatever its value. -/
theorem Value.tidy_literal (value : Value) : Tidy value.literal := by
  have typed {opening content : List Char} (lead : List Char) (opens : opening = lead ++ ['\''])
      (bare : Bare lead) (unquoted : Unquoted content) : Tidy (opening ++ content ++ ['\'']) := by
    rw [opening_append_content opens unquoted]
    exact bare.tidy_append (.quoted content)
  have word {word : String} (bare : Bare word.toList) : Tidy word.toList := bare.tidy
  cases value with
  | null => exact word (by decide)
  | boolean truth =>
      cases truth with
      | true => exact word (by decide)
      | false => exact word (by decide)
  | integer number => exact tidy_signedDigits _
  | bigint number => exact tidy_signedDigits _
  | decimal number => exact number.tidy_text
  | real number => exact number.tidy_text
  | double number => exact number.tidy_text
  | varchar text => exact .quoted text.toList
  | time clock => exact typed "TIME ".toList (by simp) (by decide) clock.plain_text.unquoted
  | date day => exact typed "DATE ".toList (by simp) (by decide) day.plain_text.unquoted
  | timestamp instant =>
      exact typed "TIMESTAMP ".toList (by simp) (by decide) instant.unquoted_text
  | varbinary bytes =>
      exact typed "X".toList (by simp) (by decide) (Hex.plain_write bytes).unquoted

/-- A name, and a qualifier if there is one, without quotes and minus signs. -/
structure ColumnRef.IsBare (reference : ColumnRef) : Prop where
  qualifier : ∀ qualifier ∈ reference.qualifier, Bare qualifier.toList
  name : Bare reference.name.toList

/-- A column reference with bare names is bare. -/
theorem ColumnRef.bare_text {reference : ColumnRef} (isBare : reference.IsBare) :
    Bare reference.text := by
  obtain ⟨qualifier, name, binding, evaluatable⟩ := reference
  cases qualifier with
  | none => exact isBare.name
  | some qualifier =>
      have point : Bare ['.'] := by decide
      exact (isBare.qualifier qualifier rfl).append (point.append isBare.name)

section Compound

variable {text left right : List Char}

theorem Text.Tidy.blank (tidy : Tidy text) : Tidy (' ' :: text) :=
  tidy.cons (by decide) (by decide)

theorem Text.Tidy.parenthesized (tidy : Tidy text) : Tidy ('(' :: text ++ [')']) := by
  have closing : Bare [')'] := by decide
  exact (tidy.cons (by decide) (by decide)).append closing.tidy closing.head?

/-- Arguments with a comma and a blank between them. -/
theorem tidy_intercalate {arguments : List (List Char)}
    (tidy : ∀ argument ∈ arguments, Tidy argument) :
    Tidy (List.intercalate [',', ' '] arguments) := by
  induction arguments with
  | nil => exact .nil
  | cons first rest ih =>
      have firstTidy := tidy first List.mem_cons_self
      have restTidy := ih fun argument isMember => tidy argument (List.mem_cons_of_mem _ isMember)
      cases rest with
      | nil =>
          rw [List.intercalate_singleton]
          exact firstTidy
      | cons second rest =>
          have comma : Tidy (',' :: ' ' :: List.intercalate [',', ' '] (second :: rest)) :=
            restTidy.blank.cons (by decide) (by decide)
          rw [List.intercalate_cons_cons, List.append_assoc]
          exact firstTidy.append comma (head?_cons_ne_minus (by decide))

theorem tidy_callText {name : String} {arguments : List (List Char)} (bare : Bare name.toList)
    (tidy : ∀ argument ∈ arguments, Tidy argument) : Tidy (callText name arguments) := by
  unfold callText
  rw [List.append_assoc]
  exact bare.tidy_append (tidy_intercalate tidy).parenthesized

/-- The sign of an operator is tidy. -/
theorem tidy_token (op : BinaryOp) : Tidy op.token.toList := by
  have word {word : String} (bare : Bare word.toList) : Tidy word.toList := bare.tidy
  cases op with
  | concat => exact word (by decide)
  | arith op =>
      cases op with
      | minus => exact Tidy.nil.minus nofun
      | plus | multiply | divide | modulus => exact word (by decide)

end Compound

/-- The text of an expression is tidy whatever its literals hold, as long as the names of its
columns are bare. -/
theorem Expr.tidy_text {expr : Expr} (bare : ∀ reference ∈ expr.columns, reference.IsBare) :
    Tidy expr.text := by
  -- Operands and operators stand behind a blank, so no minus sign follows another one.
  have noMinus (text : List Char) : (' ' :: text).head? ≠ some '-' :=
    head?_cons_ne_minus (by decide)
  induction expr with
  | literal value => exact value.tidy_literal
  | column reference =>
      have isBare := bare reference (Multiset.mem_singleton_self reference)
      exact (ColumnRef.bare_text isBare).tidy
  | parameter index => exact (bare_digits index.number).tidy.cons (by decide) (by decide)
  | negate operand resolved ih => exact ((ih bare).blank.minus (noMinus _)).parenthesized
  | binary op left right resolved converts leftIH rightIH =>
      simp only [columns, tally, Multiset.mem_add] at bare
      have leftTidy := leftIH fun reference isMember => bare reference (.inl isMember)
      have rightTidy := rightIH fun reference isMember => bare reference (.inr isMember)
      have leftSide := leftTidy.append (tidy_token op).blank (noMinus _)
      exact (leftSide.append rightTidy.blank (noMinus _)).parenthesized
  | call function unit first second resolved unitIH firstIH secondIH =>
      simp only [columns, tally, Multiset.mem_add] at bare
      have name : Bare function.name.toList := by cases function <;> decide
      refine tidy_callText name fun argument isMember => ?_
      simp only [List.mem_cons, List.not_mem_nil, or_false] at isMember
      rcases isMember with rfl | rfl | rfl
      · exact unitIH fun reference isMember => bare reference (.inl (.inl isMember))
      · exact firstIH fun reference isMember => bare reference (.inl (.inr isMember))
      · exact secondIH fun reference isMember => bare reference (.inr isMember)
  | aggregate kind argument resolved state ih =>
      have name : Bare kind.name.toList := by cases kind <;> decide
      refine tidy_callText name fun argument isMember => ?_
      rw [List.mem_singleton.mp isMember]
      exact ih bare

/-- The text of a draft of a call is tidy, however many of its arguments are there. -/
theorem CallDraft.tidy_text {draft : CallDraft}
    (bare : ∀ argument ∈ draft.arguments, ∀ reference ∈ argument.columns, reference.IsBare) :
    Tidy draft.sql.toList := by
  have name : Bare draft.function.name.toList := by cases draft.function <;> decide
  rw [sql, String.toList_ofList]
  refine tidy_callText name fun text isMember => ?_
  obtain ⟨argument, isArgument, rfl⟩ := List.mem_map.mp isMember
  exact Expr.tidy_text (bare argument isArgument)

/-- A scan of SQL text that knows quotes and nothing else ends outside quoted regions and meets
no two minus signs side by side there, if no name of a column has a quote or a minus sign. -/
theorem sql_harmless :
    (∀ expr : Expr, (∀ reference ∈ expr.columns, reference.IsBare) →
      Scan.outside.Harmless expr.sql.toList) ∧
    ∀ draft : CallDraft,
      (∀ argument ∈ draft.arguments, ∀ reference ∈ argument.columns, reference.IsBare) →
        Scan.outside.Harmless draft.sql.toList := by
  constructor
  · intro expr bare
    rw [Expr.sql, String.toList_ofList]
    exact (Expr.tidy_text bare).harmless
  · intro draft bare
    exact (CallDraft.tidy_text bare).harmless

/-- Minus signs and a quote inside a string, and a negated difference from a negative number. -/
theorem harmless_minus_signs :
    let column : ColumnRef := ⟨some "T", "A", none, false⟩
    let expr := Expr.concat (.string "it's --")
      (.negated (.arith .minus (.column column) (.int (-1))))
    expr.sql = "('it''s --' || (- (T.A - -1)))" ∧ column.IsBare ∧
      Scan.outside.Harmless expr.sql.toList := by
  intro column expr
  have isBare : column.IsBare := by
    refine ⟨?_, (by decide : Bare "A".toList)⟩
    rintro qualifier ⟨⟩
    exact (by decide : Bare "T".toList)
  refine ⟨by decide, isBare, sql_harmless.1 expr ?_⟩
  intro reference isMember
  have columns : expr.columns = {column} := rfl
  rw [columns, Multiset.mem_singleton] at isMember
  rw [isMember]
  exact isBare

end SqlScalar
