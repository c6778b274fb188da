import SqlScalar.Proofs.NodeRules

/-! # Spellings

Date functions and units are found by the words they are written as, without regard to letter
case. For units that is the case of ASCII letters, but for three other letters: a sharp s, a dotless
i and a long s are upper-cased to ASCII letters and so are taken for them. What names no unit, with
these three spelled out, is refused as the unit of a call.
-/

namespace SqlScalar

open Text Calendar

/-- An element that is the only one with a property is the first one found to have it. -/
theorem find?_eq_some_iff_of_unique {Element : Type} {holds : Element → Bool}
    {list : List Element} (every : ∀ element, element ∈ list)
    (unique : ∀ {element other}, holds element = true → holds other = true → other = element)
    {element : Element} : list.find? holds = some element ↔ holds element = true := by
  constructor
  · exact List.find?_some
  · intro isHeld
    cases found : list.find? holds with
    | none => exact absurd isHeld (List.find?_eq_none.mp found element (every element))
    | some other => rw [unique isHeld (List.find?_some found)]

namespace DateFunction

variable {function : DateFunction} {name : String}

/-- Whether a date function answers to a name, whatever its letter case. -/
def Answers (function : DateFunction) (name : String) : Prop :=
  upperWord name ∈ function.spellings

/-- The function under a name is the one that answers to it. -/
theorem ofName?_eq_some : ofName? name = some function ↔ function.Answers name := by
  have every : ∀ function, function ∈ [dateAdd, dateDiff] := by
    intro function
    cases function <;> decide
  have distinct : ∀ function ∈ [dateAdd, dateDiff], ∀ word ∈ function.spellings,
      ∀ other ∈ [dateAdd, dateDiff], word ∈ other.spellings → other = function := by
    decide
  unfold ofName? Answers
  rw [find?_eq_some_iff_of_unique every, List.contains_iff_mem]
  intro function other mine theirs
  rw [List.contains_iff_mem] at mine theirs
  exact distinct function (every function) _ mine other (every other) theirs

end DateFunction

namespace Text

/-- The letters outside ASCII that are upper-cased to letters of the names of units: a sharp s, a
dotless i and a long s. -/
def lookalikes : List Char :=
  ['\u00DF', '\u0131', '\u017F']

/-- The ASCII letters that a lookalike is taken for. Any other character stands for itself. -/
def spellOut (char : Char) : List Char :=
  if char = '\u00DF' then ['s', 's']
  else if char = '\u0131' then ['i']
  else if char = '\u017F' then ['s']
  else [char]

/-- A text with its lookalikes replaced by the letters that they are taken for. -/
def spelledOut (text : List Char) : List Char :=
  text.flatMap spellOut

/-- The characters besides the lookalikes that are upper-cased to ASCII letters. -/
def ligatures : List Char :=
  ['\uFB00', '\uFB01', '\uFB02', '\uFB03', '\uFB04', '\uFB05', '\uFB06']

/-- A word in which no ligature stands for anything: it is made of ASCII capitals, and has no `F`
and no `T` behind an `S`. -/
structure FreeOfLigatures (word : List Char) : Prop where
  capitals : ∀ char ∈ word, char.isUpper = true
  no_f : 'F' ∉ word
  no_st : ¬ ['S', 'T'] <:+: word

variable {char : Char} {text word : List Char}

theorem toUpper_of_not_ascii (outside : 0x80 ≤ char.toNat) : char.toUpper = char := by
  have above : ¬ ('a'.val ≤ char.val ∧ char.val ≤ 'z'.val) := by
    rintro ⟨_, below⟩
    have small : char.toNat ≤ 122 := below
    omega
  exact dif_neg above

/-- What has a capital for its upper case is a letter. -/
theorem isAlpha_of_toUpper (isCapital : char.toUpper.isUpper = true) : char.isAlpha = true := by
  refine Bool.or_eq_true_iff.mpr (?_ : char.isUpper = true ∨ char.isLower = true)
  by_cases lower : 'a'.val ≤ char.val ∧ char.val ≤ 'z'.val
  · exact .inr (Bool.and_eq_true_iff.mpr ⟨decide_eq_true lower.1, decide_eq_true lower.2⟩)
  · have same : char.toUpper = char := dif_neg lower
    rw [same] at isCapital
    exact .inl isCapital

/-- Only lookalikes are changed by being spelled out. -/
theorem spellOut_of_not_lookalike (plain : char ∉ lookalikes) : spellOut char = [char] := by
  simp only [lookalikes, List.mem_cons, List.not_mem_nil, or_false, not_or] at plain
  simp only [spellOut, plain.1, plain.2.1, plain.2.2, ↓reduceIte]

/-- A text without lookalikes stands for itself. -/
theorem spelledOut_of_no_lookalike (plain : ∀ char ∈ text, char ∉ lookalikes) :
    spelledOut text = text := by
  unfold spelledOut
  induction text with
  | nil => rfl
  | cons char rest ih =>
      obtain ⟨first, others⟩ := List.forall_mem_cons.mp plain
      rw [List.flatMap_cons, spellOut_of_not_lookalike first, ih others]
      rfl

/-- Apart from ligatures, upper-casing is that of ASCII letters once a character is spelled out. -/
theorem upperForm_eq_map (single : char ∉ ligatures) :
    upperForm char = (spellOut char).map Char.toUpper := by
  simp only [ligatures, List.mem_cons, List.not_mem_nil, or_false, not_or] at single
  by_cases isAscii : char.toNat < 0x80
  · have plain : char ∉ lookalikes := by
      intro isLookalike
      simp only [lookalikes, List.mem_cons, List.not_mem_nil, or_false] at isLookalike
      rcases isLookalike with rfl | rfl | rfl <;> exact absurd isAscii (by decide)
    rw [spellOut_of_not_lookalike plain, upperForm, if_pos isAscii]
    rfl
  · by_cases isLookalike : char ∈ lookalikes
    · simp only [lookalikes, List.mem_cons, List.not_mem_nil, or_false] at isLookalike
      rcases isLookalike with rfl | rfl | rfl <;> rfl
    · have outside : char.toUpper = char := toUpper_of_not_ascii (Nat.le_of_not_lt isAscii)
      rw [spellOut_of_not_lookalike isLookalike, List.map_singleton, outside]
      simp only [lookalikes, List.mem_cons, List.not_mem_nil, or_false, not_or] at isLookalike
      simp only [upperForm, isAscii, isLookalike, single, ↓reduceIte]

/-- A text without ligatures is upper-cased letter by letter, once its lookalikes are spelled
out. -/
theorem upper_eq_map (single : ∀ char ∈ text, char ∉ ligatures) :
    upper text = (spelledOut text).map Char.toUpper := by
  unfold upper spelledOut
  induction text with
  | nil => rfl
  | cons char rest ih =>
      obtain ⟨first, others⟩ := List.forall_mem_cons.mp single
      rw [List.flatMap_cons, List.flatMap_cons, List.map_append, upperForm_eq_map first, ih others]

/-- A character other than a lookalike is there still when a text is spelled out. -/
theorem mem_spelledOut (isMember : char ∈ text) (plain : char ∉ lookalikes) :
    char ∈ spelledOut text := by
  refine List.mem_flatMap.mpr ⟨char, isMember, ?_⟩
  rw [spellOut_of_not_lookalike plain]
  exact List.mem_singleton_self char

/-- A ligature is upper-cased to letters with an `F` among them, or to `S` and `T`. -/
theorem upperForm_of_ligature (isLigature : char ∈ ligatures) :
    'F' ∈ upperForm char ∨ upperForm char = ['S', 'T'] := by
  have every : ligatures.all
      (fun char => 'F' ∈ upperForm char ∨ upperForm char = ['S', 'T']) = true := by
    decide
  exact of_decide_eq_true (List.all_eq_true.mp every char isLigature)

/-- A ligature is no lookalike, and it is left as it is where ASCII letters are made capitals. -/
theorem keeps_ligature (isLigature : char ∈ ligatures) :
    char ∉ lookalikes ∧ char.toUpper = char ∧ char.isUpper = false := by
  have every : ligatures.all
      (fun char => char ∉ lookalikes ∧ char.toUpper = char ∧ char.isUpper = false) = true := by
    decide
  exact of_decide_eq_true (List.all_eq_true.mp every char isLigature)

namespace FreeOfLigatures

/-- No text with a ligature in it is upper-cased to such a word. -/
theorem not_mem_of_upper (free : FreeOfLigatures word) (same : upper text = word) :
    ∀ char ∈ text, char ∉ ligatures := by
  intro char isMember isLigature
  have joined : upperForm char <:+: word := by
    obtain ⟨before, after, rfl⟩ := List.append_of_mem isMember
    refine ⟨upper before, upper after, ?_⟩
    simp only [← same, upper, List.flatMap_append, List.flatMap_cons, List.append_assoc]
  rcases upperForm_of_ligature isLigature with hasF | isST
  · exact free.no_f (joined.subset hasF)
  · rw [isST] at joined
    exact free.no_st joined

/-- A text that is upper-cased to a word free of ligatures has none. -/
theorem not_mem_of_map (free : FreeOfLigatures word)
    (same : (spelledOut text).map Char.toUpper = word) : ∀ char ∈ text, char ∉ ligatures := by
  intro char isMember isLigature
  obtain ⟨plain, same', noCapital⟩ := keeps_ligature isLigature
  have inWord : char ∈ word := by
    rw [← same, ← same']
    exact List.mem_map_of_mem (mem_spelledOut isMember plain)
  rw [free.capitals char inWord] at noCapital
  cases noCapital

/-- A text is upper-cased to such a word just if it is once it is spelled out, letter by letter. -/
theorem upper_eq_iff (free : FreeOfLigatures word) :
    upper text = word ↔ (spelledOut text).map Char.toUpper = word := by
  constructor
  · intro same
    rw [← upper_eq_map (free.not_mem_of_upper same)]
    exact same
  · intro same
    rw [upper_eq_map (free.not_mem_of_map same)]
    exact same

end FreeOfLigatures

end Text

namespace Calendar.TimeUnit

variable {unit other : TimeUnit} {text : String} {letters : List Char}

/-- Whether letters spell a unit, whatever the case of those in ASCII. -/
def Spelled (unit : TimeUnit) (letters : List Char) : Prop :=
  foldAsciiCase (String.ofList letters) ∈ unit.spellings

instance : Decidable (unit.Spelled letters) :=
  inferInstanceAs (Decidable (foldAsciiCase (String.ofList letters) ∈ unit.spellings))

theorem mem_all (unit : TimeUnit) : unit ∈ all := by
  cases unit <;> decide

/-- No word belongs to two units. -/
theorem eq_of_mem_spellings {word : String} (mine : word ∈ unit.spellings)
    (theirs : word ∈ other.spellings) : other = unit := by
  have distinct : ∀ unit ∈ all, ∀ word ∈ unit.spellings, ∀ other ∈ all,
      word ∈ other.spellings → other = unit := by
    decide +kernel
  exact distinct unit (mem_all unit) word mine other (mem_all other) theirs

/-- No spelling of a unit has anything that a ligature could stand for. -/
theorem freeOfLigatures_of_mem {word : String} (isSpelling : word ∈ unit.spellings) :
    FreeOfLigatures word.toList := by
  have every : ∀ unit ∈ all, ∀ word ∈ unit.spellings,
      word.toList.all Char.isUpper = true ∧ 'F' ∉ word.toList ∧
        ¬ ['S', 'T'] <:+: word.toList := by
    decide +kernel
  obtain ⟨capitals, noF, noST⟩ := every unit (mem_all unit) word isSpelling
  exact ⟨List.all_eq_true.mp capitals, noF, noST⟩

/-- A text in upper case is a spelling of a unit just if its letters, lookalikes spelled out,
spell the unit. -/
theorem upper_mem_spellings_iff :
    String.ofList (upper letters) ∈ unit.spellings ↔ unit.Spelled (spelledOut letters) := by
  have folded : foldAsciiCase (String.ofList (spelledOut letters)) =
      String.ofList ((spelledOut letters).map Char.toUpper) := by
    rw [foldAsciiCase, String.toList_ofList]
  unfold Spelled
  rw [folded]
  constructor
  · intro isSpelling
    have free := freeOfLigatures_of_mem isSpelling
    rw [String.toList_ofList] at free
    rw [free.upper_eq_iff.mp rfl]
    exact isSpelling
  · intro isSpelling
    have free := freeOfLigatures_of_mem isSpelling
    rw [String.toList_ofList] at free
    rw [free.upper_eq_iff.mpr rfl]
    exact isSpelling

/-- A unit is only spelled in ASCII letters. -/
theorem Spelled.isAlpha (spelled : unit.Spelled letters) :
    ∀ char ∈ letters, char.isAlpha = true := by
  intro char isMember
  have capitals := (freeOfLigatures_of_mem spelled).capitals
  rw [foldAsciiCase, String.toList_ofList, String.toList_ofList] at capitals
  exact isAlpha_of_toUpper (capitals _ (List.mem_map_of_mem isMember))

/-- A text names a unit just if its letters, without blanks around them and with lookalikes
spelled out, spell it. -/
theorem parse_eq_ok_iff :
    parse text = .ok unit ↔ unit.Spelled (spelledOut (trim text.toList)) := by
  have found : all.find? (fun unit => unit.spellings.contains
      (String.ofList (upper (trim text.toList)))) = some unit ↔
        unit.Spelled (spelledOut (trim text.toList)) := by
    rw [find?_eq_some_iff_of_unique mem_all, List.contains_iff_mem, upper_mem_spellings_iff]
    intro unit other mine theirs
    rw [List.contains_iff_mem] at mine theirs
    exact eq_of_mem_spellings mine theirs
  rw [← found, parse]
  cases all.find? (fun unit => unit.spellings.contains
      (String.ofList (upper (trim text.toList)))) with
  | none => exact ⟨nofun, nofun⟩
  | some other => rw [Except.ok.injEq, Option.some.injEq]

/-- A text that names no unit is refused as it is. -/
theorem parse_of_unspelled (unspelled : ∀ unit : TimeUnit,
    ¬ unit.Spelled (spelledOut (trim text.toList))) :
    parse text = .error (.invalidUnit text) := by
  cases parsed : parse text with
  | ok unit => exact absurd (parse_eq_ok_iff.mp parsed) (unspelled unit)
  | error failure =>
      unfold parse at parsed
      simp only at parsed
      split at parsed
      · cases parsed
      · exact parsed.symm

end Calendar.TimeUnit

/-- Whether a call is refused for a value as its unit: when it is resolved with that constant, once
its other arguments are resolved, and whenever its unit has that value. -/
structure Value.RefusedAsUnit (named : Value) : Prop where
  resolving (mode : Mode) (function : DateFunction) (first second : Expr)
    (resolved : Option DataType) (firstResolves : ∃ first', first.resolve mode = .ok first')
    (secondResolves : ∃ second', second.resolve mode = .ok second') :
    (Expr.call function (.literal named) first second resolved).resolve mode =
      .error (.invalidUnit named.display)
  evaluating (context : Context) (function : DateFunction) (unit first second : Expr)
    (type : DataType) (holds : unit.evaluate context = .ok named) :
    (Expr.call function unit first second (some type)).evaluate context =
      .error (.invalidUnit named.display)

/-- A value that is not taken for a unit is refused as one wherever it turns up. -/
theorem Value.refusedAsUnit {named : Value} (present : named.isNull = false)
    (refused : TimeUnit.parse named.display = .error (.invalidUnit named.display)) :
    named.RefusedAsUnit where
  resolving mode function first second resolved firstResolves secondResolves := by
    obtain ⟨first', firstIs⟩ := firstResolves
    obtain ⟨second', secondIs⟩ := secondResolves
    have unknown : Resolution.constantUnit (.literal named) =
        .error (.invalidUnit named.display) := by
      simp only [Resolution.constantUnit, present, refused, Bool.false_eq_true, ↓reduceIte]
      rfl
    simp only [Expr.resolve, firstIs, secondIs, ok_bind, Resolution.call, unknown]
    rfl
  evaluating context function unit first second type holds := by
    simp only [Expr.evaluate, resolvedType, holds, ok_bind, DateFunction.evaluate, present,
      refused, Bool.false_eq_true, ↓reduceIte]
    rfl

/-- A text names the unit that it spells, apart from blanks around it, in ASCII letters of either
case; a lookalike counts as the letters that it is spelled out as. Whatever spells no unit so, such
as a text with any other character in it, is refused as it is, alone and as the unit of a call. -/
theorem unit_of_spelled_out_text (text : String) :
    (∀ unit, TimeUnit.parse text = .ok unit ↔
      unit.Spelled (spelledOut (trim text.toList))) ∧
    ((∀ char ∈ trim text.toList, char ∉ lookalikes) →
      ∀ unit, TimeUnit.parse text = .ok unit ↔ unit.Spelled (trim text.toList)) ∧
    ((∃ char ∈ trim text.toList, char.isAlpha = false ∧ char ∉ lookalikes) →
      ∀ unit : TimeUnit, ¬ unit.Spelled (spelledOut (trim text.toList))) ∧
    ((∀ unit : TimeUnit, ¬ unit.Spelled (spelledOut (trim text.toList))) →
      TimeUnit.parse text = .error (.invalidUnit text) ∧
      ∀ named : Value, named.isNull = false → named.display = text → named.RefusedAsUnit) := by
  refine ⟨fun _ => TimeUnit.parse_eq_ok_iff, ?_, ?_, ?_⟩
  · intro plain unit
    rw [TimeUnit.parse_eq_ok_iff, spelledOut_of_no_lookalike plain]
  · rintro ⟨char, isMember, noLetter, plain⟩ unit spelled
    rw [spelled.isAlpha char (mem_spelledOut isMember plain)] at noLetter
    cases noLetter
  · intro unspelled
    have refused := TimeUnit.parse_of_unspelled unspelled
    refine ⟨refused, ?_⟩
    rintro named present rfl
    exact Value.refusedAsUnit present refused

/-- A long s ends the plural of a unit, but an umlaut is no letter of one. -/
theorem unit_of_long_s :
    TimeUnit.parse "week\u017F" = .ok .week ∧ (Value.varchar "d\u00E4y").RefusedAsUnit := by
  obtain ⟨names, _⟩ := unit_of_spelled_out_text "week\u017F"
  obtain ⟨_, _, foreign, refuses⟩ := unit_of_spelled_out_text "d\u00E4y"
  have unspelled := foreign ⟨'\u00E4', by decide, by decide, by decide⟩
  exact ⟨(names .week).mpr (by decide), (refuses unspelled).2 _ rfl rfl⟩

/-- A sharp s spells no unit, but is taken for the second. -/
theorem parse_sharp_s :
    TimeUnit.parse "\u00DF" = .ok .second ∧
      (∀ unit : TimeUnit, ¬ unit.Spelled (trim "\u00DF".toList)) ∧
      ∃ result, (Expr.call .dateDiff (.string "\u00DF") (.parameter 0) (.parameter 1)
        none).resolve .regular = .ok result := by
  refine ⟨rfl, fun unit spelled => ?_, _, rfl⟩
  have isAlpha := spelled.isAlpha '\u00DF' (by decide)
  exact absurd isAlpha (by decide)

end SqlScalar
