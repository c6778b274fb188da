import Mathlib.Data.List.Basic
import SqlScalar.Proofs.Spellings
import SqlScalar.Proofs.StaticFailures

/-! # Slots of calls

A call is drafted by putting arguments into its three slots. Whatever the order, a slot holds the
last argument that was put into it, and a place that is none of a slot is refused, by its number,
and changes nothing. The draft makes a call once every slot has been filled; before that it is
refused with the number of slots that have been.
-/

namespace SqlScalar

/-- An argument put into a slot of a draft. -/
structure Filling where
  slot : Index
  argument : Expr

/-- The last argument that some fillings put into a slot. -/
def lastIn? (fillings : List Filling) (slot : Nat) : Option Expr :=
  (fillings.reverse.find? fun filling => filling.slot.toNat = slot).map Filling.argument

/-- The slots that some fillings put an argument into. -/
def filledSlots (fillings : List Filling) : List Nat :=
  (List.range DateFunction.arity).filter fun slot => ∃ filling ∈ fillings, filling.slot.toNat = slot

/-- Whether some fillings put an argument into every slot. -/
def FillEverySlot (fillings : List Filling) : Prop :=
  ∀ slot < DateFunction.arity, ∃ filling ∈ fillings, filling.slot.toNat = slot

namespace CallDraft

/-- The draft of a call of a function, with all slots empty. -/
def empty (function : DateFunction) : CallDraft :=
  ⟨function, none, none, none⟩

/-- What is in a slot of a draft. -/
def slot? (draft : CallDraft) : Nat → Option Expr
  | 0 => draft.unit
  | 1 => draft.first
  | 2 => draft.second
  | _ => none

/-- The draft after a filling, the same as before if that is refused. -/
def fill (draft : CallDraft) (filling : Filling) : CallDraft :=
  match draft.set filling.slot filling.argument with
  | .ok filled => filled
  | .error _ => draft

/-- The draft after some fillings, one after another. -/
def fillAll (draft : CallDraft) (fillings : List Filling) : CallDraft :=
  fillings.foldl fill draft

/-- Whether a filling changes the slot that it is for and nothing else, and is refused if there is
no such slot. The number it is refused with is one more than the place, and zero for the last place
of all. -/
structure Takes (draft : CallDraft) (filling : Filling) : Prop where
  refused (outside : DateFunction.arity ≤ filling.slot.toNat) :
    draft.set filling.slot filling.argument =
        .error (.argumentCount draft.function ((filling.slot.toNat + 1) % 2 ^ (64 : Nat))) ∧
      draft.fill filling = draft
  filled (inside : filling.slot.toNat < DateFunction.arity) :
    draft.set filling.slot filling.argument = .ok (draft.fill filling) ∧
      (draft.fill filling).function = draft.function ∧
      ∀ slot, (draft.fill filling).slot? slot =
        if filling.slot.toNat = slot then some filling.argument else draft.slot? slot

variable {draft : CallDraft} {function : DateFunction} {filling : Filling}
  {fillings : List Filling} {index : Index} {slot : Nat} {argument : Expr}

section Filling

/-- Where there is a slot, it takes the argument, and the other slots are as before. -/
theorem set_of_lt (draft : CallDraft) (argument : Expr)
    (inside : index.toNat < DateFunction.arity) :
    ∃ filled, draft.set index argument = .ok filled ∧ filled.function = draft.function ∧
      ∀ other, filled.slot? other =
        if index.toNat = other then some argument else draft.slot? other := by
  unfold set
  generalize index.toNat = slot at inside ⊢
  match slot, inside with
  | 0, _ | 1, _ | 2, _ => exact ⟨_, rfl, rfl, by rintro (_ | _ | _ | _) <;> rfl⟩

/-- Where there is no slot, the argument is refused with the number of its place. -/
theorem set_of_le (outside : DateFunction.arity ≤ index.toNat) :
    draft.set index argument =
      .error (.argumentCount draft.function ((index.toNat + 1) % 2 ^ (64 : Nat))) := by
  rw [← index.number_eq]
  unfold set
  generalize index.number = number
  obtain ⟨beyond, isBeyond⟩ := Nat.exists_eq_add_of_le' outside
  rw [isBeyond]
  rfl

/-- Each filling changes its slot alone or is refused. -/
theorem takes (draft : CallDraft) (filling : Filling) : draft.Takes filling where
  refused outside := by
    have refused : draft.set filling.slot filling.argument =
        .error (.argumentCount draft.function ((filling.slot.toNat + 1) % 2 ^ (64 : Nat))) :=
      set_of_le outside
    exact ⟨refused, by rw [fill, refused]⟩
  filled inside := by
    obtain ⟨filled, sets, function, slots⟩ := draft.set_of_lt filling.argument inside
    have fills : draft.fill filling = filled := by rw [fill, sets]
    rw [fills]
    exact ⟨sets, function, slots⟩

theorem function_fill : (draft.fill filling).function = draft.function := by
  rcases Nat.lt_or_ge filling.slot.toNat DateFunction.arity with inside | outside
  · exact ((draft.takes filling).filled inside).2.1
  · rw [((draft.takes filling).refused outside).2]

/-- After a filling its slot has its argument, and any other slot what it had. -/
theorem slot?_fill (inside : slot < DateFunction.arity) :
    (draft.fill filling).slot? slot =
      if filling.slot.toNat = slot then some filling.argument else draft.slot? slot := by
  rcases Nat.lt_or_ge filling.slot.toNat DateFunction.arity with isSlot | outside
  · exact ((draft.takes filling).filled isSlot).2.2 slot
  · rw [((draft.takes filling).refused outside).2, if_neg (by omega)]

end Filling

section Fillings

/-- A later filling of a slot counts more than the first one. -/
theorem lastIn?_cons :
    lastIn? (filling :: fillings) slot =
      (lastIn? fillings slot).or
        (if filling.slot.toNat = slot then some filling.argument else none) := by
  simp only [lastIn?, List.reverse_cons, List.find?_append, Option.map_or, List.find?_singleton,
    decide_eq_true_eq]
  split <;> rfl

theorem function_fillAll : (draft.fillAll fillings).function = draft.function := by
  unfold fillAll
  induction fillings generalizing draft with
  | nil => rfl
  | cons filling rest ih => rw [List.foldl_cons, ih, function_fill]

/-- A slot holds what was put into it last, and what it held before if nothing was. -/
theorem slot?_fillAll (inside : slot < DateFunction.arity) :
    (draft.fillAll fillings).slot? slot = (lastIn? fillings slot).or (draft.slot? slot) := by
  unfold fillAll
  induction fillings generalizing draft with
  | nil => rfl
  | cons filling rest ih =>
      rw [List.foldl_cons, ih, slot?_fill inside, lastIn?_cons, Option.or_assoc]
      split <;> rfl

theorem slot?_fillAll_empty (inside : slot < DateFunction.arity) :
    ((empty function).fillAll fillings).slot? slot = lastIn? fillings slot := by
  have isEmpty : (empty function).slot? slot = none := by
    match slot with
    | 0 | 1 | 2 | _ + 3 => rfl
  rw [slot?_fillAll inside, isEmpty, Option.or_none]

/-- The arguments of a draft are what its slots have, in the order of the slots. -/
theorem arguments_eq (draft : CallDraft) :
    draft.arguments = (List.range DateFunction.arity).filterMap draft.slot? := by
  obtain ⟨function, unit, first, second⟩ := draft
  cases unit <;> cases first <;> cases second <;> rfl

theorem lastIn?_eq_none :
    lastIn? fillings slot = none ↔ ∀ filling ∈ fillings, filling.slot.toNat ≠ slot := by
  simp only [lastIn?, Option.map_eq_none_iff, List.find?_eq_none, List.mem_reverse,
    decide_eq_true_eq, ne_eq]

/-- From an empty draft on, the arguments are the last ones put into each slot, in the order of
the slots. -/
theorem arguments_fillAll_empty :
    ((empty function).fillAll fillings).arguments =
      (List.range DateFunction.arity).filterMap (lastIn? fillings) := by
  rw [arguments_eq]
  apply List.filterMap_congr
  intro slot isSlot
  exact slot?_fillAll_empty (List.mem_range.mp isSlot)

/-- There are as many arguments as slots that were filled, however often each was. -/
theorem length_arguments_fillAll_empty :
    ((empty function).fillAll fillings).arguments.length = (filledSlots fillings).length := by
  rw [arguments_fillAll_empty, List.length_filterMap_eq_countP, filledSlots,
    ← List.countP_eq_length_filter]
  apply List.countP_congr
  intro slot _
  rw [decide_eq_true_eq, Option.isSome_iff_ne_none, ne_eq, lastIn?_eq_none]
  simp only [ne_eq, not_forall, not_not, exists_prop]

end Fillings

section Complete

variable {expr : Expr} {failure : Failure} {mode : Mode}

/-- A draft with three arguments makes the call with these arguments. -/
theorem complete_eq_ok :
    draft.complete = .ok expr ↔ ∃ unit first second, draft.arguments = [unit, first, second] ∧
      expr = .call draft.function unit first second none := by
  obtain ⟨function, _ | unit, _ | first, _ | second⟩ := draft
  case some.some.some =>
    constructor
    · rintro ⟨⟩
      exact ⟨unit, first, second, rfl, rfl⟩
    · rintro ⟨_, _, _, ⟨⟩, rfl⟩
      rfl
  all_goals
    constructor
    · rintro ⟨⟩
    · rintro ⟨_, _, _, ⟨⟩, _⟩

/-- A draft with an empty slot is refused with the number of arguments that are there. -/
theorem complete_eq_error :
    draft.complete = .error failure ↔
      (∃ slot < DateFunction.arity, draft.slot? slot = none) ∧
        failure = .argumentCount draft.function draft.arguments.length := by
  obtain ⟨function, _ | unit, _ | first, _ | second⟩ := draft
  case some.some.some =>
    constructor
    · rintro ⟨⟩
    · rintro ⟨⟨_ | _ | _ | slot, inside, ⟨⟩⟩, _⟩
      exact absurd inside (Nat.not_lt.mpr (Nat.le_add_left 3 slot))
  all_goals
    constructor
    · rintro ⟨⟩
      refine ⟨?_, rfl⟩
      first
        | exact ⟨0, by decide, rfl⟩
        | exact ⟨1, by decide, rfl⟩
        | exact ⟨2, by decide, rfl⟩
    · rintro ⟨_, rfl⟩
      rfl

theorem exists_empty_slot_iff :
    (∃ slot < DateFunction.arity, ((empty function).fillAll fillings).slot? slot = none) ↔
      ¬ FillEverySlot fillings := by
  simp only [FillEverySlot, not_forall, not_exists, not_and, exists_prop]
  refine exists_congr fun slot => and_congr_right fun inside => ?_
  rw [slot?_fillAll_empty inside, lastIn?_eq_none]

/-- A draft is refused just if a slot has not been filled, and the number of filled slots is
reported. -/
theorem complete_fillAll_empty_eq_error :
    ((empty function).fillAll fillings).complete = .error failure ↔
      ¬ FillEverySlot fillings ∧
        failure = .argumentCount function (filledSlots fillings).length := by
  rw [complete_eq_error, exists_empty_slot_iff, function_fillAll, length_arguments_fillAll_empty]
  rfl

/-- Resolving a draft only fails for the number of its arguments if the draft is refused. -/
theorem resolve_eq_argumentCount {other : DateFunction} {actual : Nat} :
    draft.resolve mode = .error (.argumentCount other actual) ↔
      draft.complete = .error (.argumentCount other actual) := by
  unfold resolve
  rw [bind_eq_error]
  constructor
  · rintro (refused | ⟨call, _, fails⟩)
    · exact refused
    · cases spares_unready_resolve call _ fails
  · exact .inl

end Complete

section Names

variable {name : String} {arguments : List Expr} {expr : Expr}

/-- A draft can be started just by a name of a function, and all its slots are empty. -/
theorem start_eq_ok :
    start name = .ok draft ↔ ∃ function : DateFunction, function.Answers name ∧
      draft = empty function := by
  simp only [start, ← DateFunction.ofName?_eq_some]
  cases DateFunction.ofName? name with
  | none => exact ⟨nofun, nofun⟩
  | some function =>
      constructor
      · rintro ⟨⟩
        exact ⟨function, rfl, rfl⟩
      · rintro ⟨_, ⟨⟩, rfl⟩
        rfl

/-- A function takes a list of three arguments and no other. -/
theorem setFrom_complete_eq_ok :
    ((empty function).setFrom 0 arguments >>= complete) = .ok expr ↔
      ∃ unit first second, arguments = [unit, first, second] ∧
        expr = .call function unit first second none := by
  match arguments with
  | [unit, first, second] =>
      constructor
      · rintro ⟨⟩
        exact ⟨unit, first, second, rfl, rfl⟩
      · rintro ⟨_, _, _, ⟨⟩, rfl⟩
        rfl
  | [] | [_] | [_, _] | _ :: _ :: _ :: _ :: _ =>
      constructor
      · rintro ⟨⟩
      · rintro ⟨_, _, _, ⟨⟩, _⟩

end Names

end CallDraft

/-- A call can be built just by a name of a function with three arguments. -/
theorem Expr.call?_eq_ok {name : String} {arguments : List Expr} {expr : Expr} :
    Expr.call? name arguments = .ok expr ↔ ∃ function : DateFunction, function.Answers name ∧
      ∃ unit first second, arguments = [unit, first, second] ∧
        expr = .call function unit first second none := by
  unfold Expr.call?
  rw [bind_eq_ok]
  constructor
  · rintro ⟨draft, starts, completes⟩
    obtain ⟨function, answers, rfl⟩ := CallDraft.start_eq_ok.mp starts
    exact ⟨function, answers, CallDraft.setFrom_complete_eq_ok.mp completes⟩
  · rintro ⟨function, answers, full⟩
    exact ⟨.empty function, CallDraft.start_eq_ok.mpr ⟨function, answers, rfl⟩,
      CallDraft.setFrom_complete_eq_ok.mpr full⟩

/-- However the slots of a draft are filled, each holds the last argument put into it, and further
fillings go on from there. A filling for any other place is refused, also the one for the last place
that a word can tell, whose number wraps around to zero. The draft makes a call just if each slot
has been filled, and else it is refused, and not resolved, for the number of those that have been.
Three arguments make a call of a function that answers to a name. -/
theorem slots_hold_last_fillings (function : DateFunction) (fillings : List Filling) :
    let draft := (CallDraft.empty function).fillAll fillings
    (∀ filling, draft.Takes filling) ∧
    draft.arguments = (List.range DateFunction.arity).filterMap (lastIn? fillings) ∧
    (FillEverySlot fillings → ∃ unit first second, draft.arguments = [unit, first, second] ∧
      draft.complete = .ok (.call function unit first second none)) ∧
    (¬ FillEverySlot fillings →
      draft.complete = .error (.argumentCount function (filledSlots fillings).length)) ∧
    (∀ mode other actual, draft.resolve mode = .error (.argumentCount other actual) ↔
      ¬ FillEverySlot fillings ∧ other = function ∧ actual = (filledSlots fillings).length) ∧
    (∀ name fresh, CallDraft.start name = .ok fresh ↔
      ∃ known : DateFunction, known.Answers name ∧ fresh = .empty known) ∧
    ∀ name arguments call, Expr.call? name arguments = .ok call ↔
      ∃ known : DateFunction, known.Answers name ∧ ∃ unit first second,
        arguments = [unit, first, second] ∧ call = .call known unit first second none := by
  intro draft
  have isRefused {failure : Failure} : draft.complete = .error failure ↔ ¬ FillEverySlot fillings ∧
      failure = .argumentCount function (filledSlots fillings).length :=
    CallDraft.complete_fillAll_empty_eq_error
  refine ⟨draft.takes, CallDraft.arguments_fillAll_empty, ?_, ?_, ?_,
    fun _ _ => CallDraft.start_eq_ok, fun _ _ _ => Expr.call?_eq_ok⟩
  · intro full
    cases completes : draft.complete with
    | error failure => exact absurd full (isRefused.mp completes).1
    | ok call =>
        obtain ⟨unit, first, second, three, rfl⟩ := CallDraft.complete_eq_ok.mp completes
        have sameFunction : draft.function = function := CallDraft.function_fillAll
        exact ⟨unit, first, second, three, by rw [sameFunction]⟩
  · intro incomplete
    exact isRefused.mpr ⟨incomplete, rfl⟩
  · intro mode other actual
    rw [CallDraft.resolve_eq_argumentCount, isRefused, Failure.argumentCount.injEq]

/-- A draft in which one slot was filled twice and a fourth one was tried is refused for two
arguments, and makes a call with the later one once the slot between them is filled. The last place
of all is refused as number zero. -/
theorem slots_hold_overwritten_argument :
    let fillings : List Filling :=
      [⟨2, .named "A"⟩, ⟨3, .named "B"⟩, ⟨0, .string "DAY"⟩, ⟨2, .named "C"⟩]
    let draft := (CallDraft.empty .dateAdd).fillAll fillings
    ¬ FillEverySlot fillings ∧ draft.complete = .error (.argumentCount .dateAdd 2) ∧
      draft.set 18446744073709551615 (.named "D") = .error (.argumentCount .dateAdd 0) ∧
      (draft.fill ⟨1, .int 1⟩).complete =
        .ok (.call .dateAdd (.string "DAY") (.int 1) (.named "C") none) := by
  intro fillings draft
  have incomplete : ¬ FillEverySlot fillings := by
    intro full
    obtain ⟨filling, isMember, isMiddle⟩ := full 1 (by decide)
    simp only [fillings, List.mem_cons, List.not_mem_nil, or_false] at isMember
    rcases isMember with rfl | rfl | rfl | rfl <;> cases isMiddle
  obtain ⟨takes, _, _, refused, _⟩ := slots_hold_last_fillings .dateAdd fillings
  obtain ⟨last, _⟩ := (takes ⟨18446744073709551615, .named "D"⟩).refused (by decide)
  exact ⟨incomplete, refused incomplete, last, rfl⟩

end SqlScalar
