import SqlScalar.Proofs.NodeValues

/-! # Order of concatenation

Concatenation joins the texts of its operands, any of which may be missing, and is associative
whether a missing text absorbs the others or is passed over. Neighbouring constants are joined when
an expression is resolved and everything else when it is evaluated. So the order of two
concatenations shows only if the two happen under modes that differ in what they do with `NULL`,
and only next to a constant that is `NULL`.
-/

namespace SqlScalar

open Resolution

/-- Two texts joined, either of which may be missing. A missing text absorbs the other one or is
passed over. -/
def joinTexts (absorbs : Bool) : Option String → Option String → Option String
  | none, right => if absorbs then none else right
  | left, none => if absorbs then none else left
  | some left, some right => some (left ++ right)

/-- Whether one of two texts is missing while the other one is given. -/
def HalfMissing (left right : Option String) (given : String) : Prop :=
  left = some given ∧ right = none ∨ left = none ∧ right = some given

/-- Whether a given text next to a third one makes a difference to a missing one. -/
def Shows (absorbs : Bool) (given : String) (third : Option String) : Prop :=
  if absorbs then third ≠ none else third = none ∨ given ≠ ""

section Texts

variable {absorbs other : Bool} {x y z : Option String} {given : String}

/-- Joining texts in one way is associative. -/
theorem joinTexts_assoc : joinTexts absorbs (joinTexts absorbs x y) z =
    joinTexts absorbs x (joinTexts absorbs y z) := by
  cases absorbs with
  | true =>
      cases x <;> cases y <;> cases z <;>
        simp only [joinTexts, ↓reduceIte, String.append_assoc]
  | false =>
      cases x <;> cases y <;> cases z <;>
        simp only [joinTexts, Bool.false_eq_true, ↓reduceIte, String.append_assoc]

/-- A missing text and a given one make the given one, or none if the missing one absorbs it. -/
theorem HalfMissing.joinTexts_eq (half : HalfMissing x y given) :
    joinTexts absorbs x y = if absorbs then none else some given := by
  rcases half with ⟨rfl, rfl⟩ | ⟨rfl, rfl⟩
  · rfl
  · rfl

/-- Of two texts one of which is missing, only one is given. -/
theorem HalfMissing.unique {given' : String} (half : HalfMissing x y given)
    (half' : HalfMissing x y given') : given' = given := by
  rcases half with ⟨rfl, rfl⟩ | ⟨rfl, rfl⟩
  · rcases half' with ⟨same, _⟩ | ⟨missing, _⟩
    · exact (Option.some.inj same).symm
    · cases missing
  · rcases half' with ⟨missing, _⟩ | ⟨_, same⟩
    · cases missing
    · exact (Option.some.inj same).symm

/-- Texts that are both given or both missing are joined alike either way. -/
theorem joinTexts_eq_of_not_half (whole : ¬ ∃ given, HalfMissing x y given) :
    joinTexts other x y = joinTexts absorbs x y := by
  cases x with
  | none =>
      cases y with
      | none => simp only [joinTexts, ite_self]
      | some right => exact absurd ⟨right, .inr ⟨rfl, rfl⟩⟩ whole
  | some left =>
      cases y with
      | none => exact absurd ⟨left, .inl ⟨rfl, rfl⟩⟩ whole
      | some right => rfl

theorem self_eq_append_left_iff {right : String} : right = given ++ right ↔ given = "" := by
  rw [← String.toList_inj, String.toList_append, List.self_eq_append_left,
    String.toList_eq_nil_iff]

theorem self_eq_append_right_iff {left : String} : left = left ++ given ↔ given = "" := by
  rw [← String.toList_inj, String.toList_append, List.self_eq_append_right,
    String.toList_eq_nil_iff]

/-- In front of a third text it makes no difference whether a text is given or missing just if it
does not show. -/
theorem joinTexts_front_eq_iff (given : String) :
    joinTexts absorbs none z = joinTexts absorbs (some given) z ↔ ¬ Shows absorbs given z := by
  cases absorbs with
  | true => cases z <;> simp [joinTexts, Shows]
  | false => cases z <;> simp [joinTexts, Shows, self_eq_append_left_iff]

/-- Behind a third text it makes no difference whether a text is given or missing just if it does
not show. -/
theorem joinTexts_back_eq_iff (given : String) :
    joinTexts absorbs z none = joinTexts absorbs z (some given) ↔ ¬ Shows absorbs given z := by
  cases absorbs with
  | true => cases z <;> simp [joinTexts, Shows]
  | false => cases z <;> simp [joinTexts, Shows, self_eq_append_right_iff]

/-- Two texts may be joined the other way before a third one is joined to them, in front or behind,
unless half of them is missing and that shows. -/
theorem join_other_iff (join : Option String → Option String)
    (tells : ∀ given, join none = join (some given) ↔ ¬ Shows absorbs given z) :
    join (joinTexts other x y) = join (joinTexts absorbs x y) ↔
      other = absorbs ∨ ¬ ∃ given, HalfMissing x y given ∧ Shows absorbs given z := by
  by_cases same : other = absorbs
  · rw [same]
    exact ⟨fun _ => .inl rfl, fun _ => rfl⟩
  · rw [or_iff_right same]
    by_cases half : ∃ given, HalfMissing x y given
    · obtain ⟨given, half⟩ := half
      have only : (∃ given', HalfMissing x y given' ∧ Shows absorbs given' z) ↔
          Shows absorbs given z := by
        constructor
        · rintro ⟨given', half', shows'⟩
          rw [half.unique half'] at shows'
          exact shows'
        · intro shows'
          exact ⟨given, half, shows'⟩
      rw [only, ← tells given, half.joinTexts_eq, half.joinTexts_eq]
      cases absorbs with
      | true =>
          cases eq_false_of_ne_true same
          exact eq_comm
      | false =>
          cases eq_true_of_ne_false same
          exact Iff.rfl
    · rw [joinTexts_eq_of_not_half half]
      refine ⟨fun _ => ?_, fun _ => rfl⟩
      rintro ⟨given, isHalf, _⟩
      exact half ⟨given, isHalf⟩

end Texts

namespace Value

/-- The text of a value in a concatenation, which `NULL` does not have. -/
def shown? (value : Value) : Option String :=
  if value.isNull then none else some value.display

/-- The string of a text, or `NULL` if it is missing. -/
def ofShown : Option String → Value
  | none => null
  | some text => varchar text

/-- The concatenation of two values of any types. -/
def joined (absorbs : Bool) (left right : Value) : Value :=
  ofShown (joinTexts absorbs left.shown? right.shown?)

theorem display_varchar (text : String) : (varchar text).display = text :=
  String.ofList_toList

theorem shown?_ofShown (text : Option String) : (ofShown text).shown? = text := by
  cases text with
  | none => rfl
  | some text => exact congrArg some (display_varchar text)

/-- Texts that make the same string are the same. -/
theorem ofShown_inj {text text' : Option String} :
    ofShown text = ofShown text' ↔ text = text' := by
  constructor
  · intro same
    rw [← shown?_ofShown text, same, shown?_ofShown]
  · rintro rfl
    rfl

theorem convertTo_varchar (value : Value) :
    value.convertTo .varchar = .ok (ofShown value.shown?) := by
  cases value with
  | varchar text => exact congrArg (Except.ok ∘ varchar) (display_varchar text).symm
  | null | boolean _ | integer _ | bigint _ | decimal _ | real _ | double _ | time _ | date _
  | timestamp _ | varbinary _ => rfl

/-- Strings are concatenated like texts that may be missing. -/
theorem concatenate_ofShown (mode : Mode) (left right : Option String) :
    concatenate mode (ofShown left) (ofShown right) =
      ofShown (joinTexts mode.nullConcatIsNull left right) := by
  unfold concatenate
  cases left with
  | none => cases mode.nullConcatIsNull <;> rfl
  | some left =>
      cases right with
      | none => cases mode.nullConcatIsNull <;> rfl
      | some right =>
          rw [ofShown, ofShown, display_varchar, display_varchar]
          rfl

section Joined

variable {absorbs other : Bool} {x y z : Value}

theorem joined_assoc :
    joined absorbs (joined absorbs x y) z = joined absorbs x (joined absorbs y z) := by
  rw [joined, joined, joined, joined, shown?_ofShown, shown?_ofShown, joinTexts_assoc]

/-- What two values are joined to makes a difference in front of a third one just if a text shows
there that another mode absorbs. -/
theorem joined_front_iff :
    joined absorbs (joined other x y) z = joined absorbs (joined absorbs x y) z ↔
      other = absorbs ∨
        ¬ ∃ given, HalfMissing x.shown? y.shown? given ∧ Shows absorbs given z.shown? := by
  rw [joined, joined, joined, joined, ofShown_inj, shown?_ofShown, shown?_ofShown]
  exact join_other_iff (joinTexts absorbs · z.shown?) joinTexts_front_eq_iff

/-- What two values are joined to makes a difference behind a third one just if a text shows there
that another mode absorbs. -/
theorem joined_back_iff :
    joined absorbs z (joined other x y) = joined absorbs z (joined absorbs x y) ↔
      other = absorbs ∨
        ¬ ∃ given, HalfMissing x.shown? y.shown? given ∧ Shows absorbs given z.shown? := by
  rw [joined, joined, joined, joined, ofShown_inj, shown?_ofShown, shown?_ofShown]
  exact join_other_iff (joinTexts absorbs z.shown? ·) joinTexts_back_eq_iff

end Joined

end Value

/-- A concatenation of values is what they are joined to. -/
theorem BinaryOp.evaluate_concat {mode : Mode} {left right : Outcome Value} :
    concat.evaluate mode .varchar true left right = (do
      let x ← left
      let y ← right
      .ok (Value.joined mode.nullConcatIsNull x y)) := by
  cases left with
  | error failure => rfl
  | ok x =>
      cases right with
      | error failure =>
          rw [evaluate, ok_bind, Value.convertTo_varchar]
          rfl
      | ok y =>
          rw [evaluate, ok_bind, Value.convertTo_varchar, ok_bind, ok_bind, convertRight,
            if_pos rfl, Value.convertTo_varchar, ok_bind, combine, Value.concatenate_ofShown]
          rfl

namespace Resolution

variable {mode : Mode} {context : Context} {left right : Expr}

/-- What the concatenation of two resolved expressions is resolved to. -/
def concatenated (mode : Mode) (left right : Expr) : Expr :=
  match left, right with
  | .literal x, .literal y => .literal (.joined mode.nullConcatIsNull x y)
  | left, right => .binary .concat left right (some .varchar) true

theorem concatenated_of_varying (varying : foldable left right = false) :
    concatenated mode left right = .binary .concat left right (some .varchar) true := by
  cases left <;> cases right <;> first | rfl | cases varying

/-- A concatenation of resolved operands can always be resolved. -/
theorem fold_concat :
    fold mode .concat left right .varchar true = .ok (concatenated mode left right) := by
  cases varying : foldable left right with
  | true =>
      obtain ⟨x, y, rfl, rfl⟩ := eq_literals_of_foldable varying
      rw [fold, BinaryOp.evaluate_concat]
      rfl
  | false => rw [fold_of_not_foldable varying, concatenated_of_varying varying]

/-- A concatenation is resolved to a constant just if both operands are constants. -/
theorem isConstant_concatenated :
    (concatenated mode left right).isConstant = foldable left right := by
  cases left <;> cases right <;> rfl

/-- Whether `NULL` absorbs in a concatenation that is done early, when it is resolved, or late. -/
def absorbs (mode : Mode) (context : Context) (early : Bool) : Bool :=
  if early then mode.nullConcatIsNull else context.mode.nullConcatIsNull

/-- The value of a concatenation is what its operands are joined to, under the mode of the time
when that is done. -/
theorem evaluate_concatenated :
    (concatenated mode left right).evaluate context = (do
      let x ← left.evaluate context
      let y ← right.evaluate context
      .ok (.joined (absorbs mode context (foldable left right)) x y)) := by
  cases varying : foldable left right with
  | true =>
      obtain ⟨x, y, rfl, rfl⟩ := eq_literals_of_foldable varying
      rfl
  | false =>
      rw [concatenated_of_varying varying]
      exact BinaryOp.evaluate_concat

/-- A concatenation can be resolved if its operands can. -/
theorem resolve_concat :
    (Expr.concat left right).resolve mode = (do
      let left' ← left.resolve mode
      let right' ← right.resolve mode
      .ok (concatenated mode left' right')) := by
  have resolves : (Expr.concat left right).resolve mode = (do
      let left' ← left.resolve mode
      let right' ← right.resolve mode
      fold mode .concat left' right' .varchar true) := rfl
  simp only [resolves, fold_concat]

section Three

variable {a b c : Expr} {x y z : Value}

/-- The value of three operands joined from the front, with the mode each step is done under. -/
theorem valueOf_concat_front :
    valueOf context ((Expr.concat (.concat a b) c).resolve mode) = (do
      let a' ← a.resolve mode
      let b' ← b.resolve mode
      let c' ← c.resolve mode
      let x ← a'.evaluate context
      let y ← b'.evaluate context
      let z ← c'.evaluate context
      .ok (.joined (absorbs mode context (foldable a' b' && c'.isConstant))
        (.joined (absorbs mode context (foldable a' b')) x y) z)) := by
  simp only [valueOf, resolve_concat, bind_assoc, ok_bind, evaluate_concatenated,
    isConstant_concatenated, foldable]

/-- The value of three operands joined from the back, with the mode each step is done under. -/
theorem valueOf_concat_back :
    valueOf context ((Expr.concat a (.concat b c)).resolve mode) = (do
      let a' ← a.resolve mode
      let b' ← b.resolve mode
      let c' ← c.resolve mode
      let x ← a'.evaluate context
      let y ← b'.evaluate context
      let z ← c'.evaluate context
      .ok (.joined (absorbs mode context (foldable a' b' && c'.isConstant)) x
        (.joined (absorbs mode context (foldable b' c')) y z))) := by
  simp only [valueOf, resolve_concat, bind_assoc, ok_bind, evaluate_concatenated,
    isConstant_concatenated, foldable, Bool.and_assoc]

/-- Whether two neighbours are joined early and next to a third operand late, with values that show
it. -/
def JoinedApart (context : Context) (left right third : Expr) (x y z : Value) : Prop :=
  foldable left right = true ∧ third.isConstant = false ∧
    ∃ given, HalfMissing x.shown? y.shown? given ∧
      Shows context.mode.nullConcatIsNull given z.shown?

/-- The order of two concatenations shows only where two neighbours are joined apart. -/
theorem joined_order_iff :
    Value.joined (absorbs mode context (foldable a b && c.isConstant))
        (.joined (absorbs mode context (foldable a b)) x y) z =
      .joined (absorbs mode context (foldable a b && c.isConstant)) x
        (.joined (absorbs mode context (foldable b c)) y z) ↔
      mode.nullConcatIsNull = context.mode.nullConcatIsNull ∨
        ¬ (JoinedApart context a b c x y z ∨ JoinedApart context b c a y z x) := by
  by_cases front : foldable a b = true ∧ c.isConstant = false
  · obtain ⟨early, varying⟩ := front
    have late : foldable b c = false := by rw [foldable, varying, Bool.and_false]
    have only : JoinedApart context a b c x y z ∨ JoinedApart context b c a y z x ↔
        ∃ given, HalfMissing x.shown? y.shown? given ∧
          Shows context.mode.nullConcatIsNull given z.shown? := by
      simp only [JoinedApart, early, varying, late, true_and, Bool.false_eq_true, false_and,
        or_false]
    rw [early, varying, late, only]
    exact Value.joined_assoc ▸ Value.joined_front_iff
  · by_cases back : foldable b c = true ∧ a.isConstant = false
    · obtain ⟨early, varying⟩ := back
      have late : foldable a b = false := by rw [foldable, varying, Bool.false_and]
      have only : JoinedApart context a b c x y z ∨ JoinedApart context b c a y z x ↔
          ∃ given, HalfMissing y.shown? z.shown? given ∧
            Shows context.mode.nullConcatIsNull given x.shown? := by
        simp only [JoinedApart, early, varying, late, true_and, Bool.false_eq_true, false_and,
          false_or]
      rw [late, early, only, Bool.false_and, Value.joined_assoc, eq_comm]
      exact Value.joined_back_iff
    · -- Either all three are constants, or neither concatenation is done early.
      have apart : ¬ (JoinedApart context a b c x y z ∨ JoinedApart context b c a y z x) := by
        rintro (⟨early, varying, _⟩ | ⟨early, varying, _⟩)
        · exact front ⟨early, varying⟩
        · exact back ⟨early, varying⟩
      obtain ⟨frontAlike, backAlike⟩ : foldable a b = (foldable a b && c.isConstant) ∧
          foldable b c = (foldable a b && c.isConstant) := by
        revert front back
        unfold foldable
        cases a.isConstant <;> cases b.isConstant <;> cases c.isConstant <;> decide
      rw [backAlike, ← frontAlike]
      exact ⟨fun _ => .inr apart, fun _ => Value.joined_assoc⟩

end Three

end Resolution

/-- Whether two neighbours are resolved to constants one of which is `NULL` while the other one has
a text, and the third operand to no constant, with a value in the context next to which it shows
whether that text is there. -/
def Expr.FoldApart (mode : Mode) (context : Context) (left right third : Expr) : Prop :=
  ∃ x y varying z given, left.resolve mode = .ok (.literal x) ∧
    right.resolve mode = .ok (.literal y) ∧ third.resolve mode = .ok varying ∧
    varying.isConstant = false ∧ varying.evaluate context = .ok z ∧
    HalfMissing x.shown? y.shown? given ∧ Shows context.mode.nullConcatIsNull given z.shown?

/-- Concatenation is associative: whatever three expressions are, they have one value or fail alike
in either order. The one exception is that they are resolved under a mode that differs from the
evaluating one in what it does with `NULL`, and that neighbours are folded apart. -/
theorem concat_assoc_iff (mode : Mode) (context : Context) (a b c : Expr) :
    valueOf context ((Expr.concat (.concat a b) c).resolve mode) =
        valueOf context ((Expr.concat a (.concat b c)).resolve mode) ↔
      mode.nullConcatIsNull = context.mode.nullConcatIsNull ∨
        ¬ (Expr.FoldApart mode context a b c ∨ Expr.FoldApart mode context b c a) := by
  rw [valueOf_concat_front, valueOf_concat_back]
  simp only [bind_eq_bind_iff, Except.ok.injEq, joined_order_iff]
  constructor
  · intro agree
    by_cases same : mode.nullConcatIsNull = context.mode.nullConcatIsNull
    · exact .inl same
    · refine .inr ?_
      rintro (⟨x, y, c', z, given, aIs, bIs, cIs, varying, cValue, half, shows'⟩ |
        ⟨y, z, a', x, given, bIs, cIs, aIs, varying, aValue, half, shows'⟩)
      · have whole := (agree _ aIs _ bIs _ cIs x rfl y rfl z cValue).resolve_left same
        exact whole (.inl ⟨rfl, varying, given, half, shows'⟩)
      · have whole := (agree _ aIs _ bIs _ cIs x aValue y rfl z rfl).resolve_left same
        exact whole (.inr ⟨rfl, varying, given, half, shows'⟩)
  · intro agree a' aIs b' bIs c' cIs x aValue y bValue z cValue
    refine agree.imp_right fun whole => ?_
    rintro (⟨early, varying, given, half, shows'⟩ | ⟨early, varying, given, half, shows'⟩)
    · obtain ⟨x, y, rfl, rfl⟩ := eq_literals_of_foldable early
      cases aValue
      cases bValue
      exact whole (.inl ⟨x, y, c', z, given, aIs, bIs, cIs, varying, cValue, half, shows'⟩)
    · obtain ⟨y, z, rfl, rfl⟩ := eq_literals_of_foldable early
      cases bValue
      cases cValue
      exact whole (.inr ⟨y, z, a', x, given, bIs, cIs, aIs, varying, aValue, half, shows'⟩)

/-- A string, `NULL` and a column, resolved where `NULL` absorbs and evaluated where it is passed
over, lose the string in one order only. -/
theorem not_concat_assoc_of_other_mode :
    ¬ ∀ (mode : Mode) (context : Context) (a b c : Expr),
      valueOf context ((Expr.concat (.concat a b) c).resolve mode) =
        valueOf context ((Expr.concat a (.concat b c)).resolve mode) := by
  intro associative
  let held : ColumnRef := ⟨none, "C", some ⟨"T", ⟨0, .varchar⟩, 0⟩, true⟩
  let context : Context := ⟨.ofProduct .oracle, [.varchar "2"], []⟩
  have same := associative .regular context (.string "1") (.literal .null) (.column held)
  have front : valueOf context ((Expr.concat (.concat (.string "1") (.literal .null))
      (.column held)).resolve .regular) = .ok (.varchar "2") := rfl
  have back : valueOf context ((Expr.concat (.string "1") (.concat (.literal .null)
      (.column held))).resolve .regular) = .ok (.varchar "12") := rfl
  rw [front, back, Except.ok.injEq, Value.varchar.injEq] at same
  revert same
  decide

end SqlScalar
