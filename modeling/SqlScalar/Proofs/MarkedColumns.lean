import SqlScalar.Proofs.ColumnBinding
import SqlScalar.Proofs.Mentions

/-! # Marks of columns

While a query is planned, tables are offered to an expression and the columns of tables are marked
as evaluatable or not, in any order. A mark counts for the references that are bound through just
its alias by then. So an expression is evaluatable if every reference in it is bound and the last
mark since then for the alias it is bound through says so.
-/

namespace SqlScalar

/-- Whether a column reference is as it is built: neither bound nor marked. -/
structure ColumnRef.IsFresh (reference : ColumnRef) : Prop where
  unbound : reference.binding = none
  unmarked : reference.evaluatable = false

/-- The use that makes an offer. -/
def Offer.use (offer : Offer) : Use :=
  .bind offer.table offer.level

theorem Offer.use_injective {offer other : Offer} (same : offer.use = other.use) :
    offer = other := by
  cases offer
  cases other
  cases same
  rfl

/-- Whether a reference gets a binding from the first of some uses that serves it, with some more
uses behind that one. -/
def ColumnRef.BoundBefore (reference : ColumnRef) (uses : List Use) (binding : Binding)
    (later : List Use) : Prop :=
  ∃ before, ∃ offer : Offer, uses = before ++ offer.use :: later ∧
    offer.Gives reference binding ∧
      ∀ earlier : Offer, earlier.use ∈ before → ¬ earlier.Serves reference

/-- Whether the last mark for an alias among some uses, of which there is one, says this. -/
def LastMark (table : String) (evaluatable : Bool) (uses : List Use) : Prop :=
  ∃ before after, uses = before ++ .mark table evaluatable :: after ∧
    ∀ other, .mark table other ∉ after

namespace Use

/-- The alias that a use is for, if it is for one. -/
def table? : Use → Option String
  | bind table _ => some table.name
  | mark table _ => some table
  | feed _ | reset => none

/-- What a use makes of a column reference. -/
def change : Use → ColumnRef → ColumnRef
  | bind table level, reference => reference.bind table level
  | mark table evaluatable, reference => reference.setEvaluatable table evaluatable
  | feed _, reference | reset, reference => reference

/-- The mark that a use makes for an alias, if it makes one. -/
def markOf? (table : String) : Use → Option Bool
  | mark marked evaluatable => if marked = table then some evaluatable else none
  | bind _ _ | feed _ | reset => none

/-- The last mark that some uses make for an alias. -/
def lastMark? (table : String) (uses : List Use) : Option Bool :=
  uses.reverse.findSome? (markOf? table)

variable {use : Use} {uses rest : List Use} {table : String} {evaluatable : Bool}

/-- A use makes a mark for an alias just if it is that mark. -/
theorem markOf?_eq_some : markOf? table use = some evaluatable ↔ use = .mark table evaluatable := by
  cases use with
  | mark marked _ =>
      simp only [markOf?, mark.injEq]
      by_cases same : marked = table
      · simp only [same, ↓reduceIte, Option.some.injEq, true_and]
      · simp only [same, ↓reduceIte, reduceCtorEq, false_and]
  | bind _ _ | feed _ | reset => exact ⟨nofun, nofun⟩

theorem markOf?_eq_none : markOf? table use = none ↔ ∀ other, use ≠ .mark table other := by
  simp only [Option.eq_none_iff_forall_ne_some, ne_eq, markOf?_eq_some]

/-- Only a use for an alias marks the columns of that table. -/
theorem markOf?_of_ne (apart : use.table? ≠ some table) : markOf? table use = none := by
  refine markOf?_eq_none.mpr ?_
  rintro other rfl
  exact apart rfl

/-- The mark that is found is the last one for its alias. -/
theorem lastMark?_eq_some :
    lastMark? table uses = some evaluatable ↔ LastMark table evaluatable uses := by
  unfold lastMark? LastMark
  rw [List.findSome?_eq_some_iff]
  simp only [markOf?_eq_some, markOf?_eq_none]
  constructor
  · rintro ⟨after, use, before, split, rfl, unmarked⟩
    refine ⟨before.reverse, after.reverse, ?_, ?_⟩
    · rw [← List.reverse_reverse uses, split, List.reverse_append, List.reverse_cons,
        List.append_assoc]
      rfl
    · intro other marks
      exact unmarked _ (List.mem_reverse.mp marks) other rfl
  · rintro ⟨before, after, rfl, unmarked⟩
    refine ⟨after.reverse, _, before.reverse, ?_, rfl, ?_⟩
    · rw [List.reverse_append, List.reverse_cons, List.append_assoc]
      rfl
    · rintro use behind other rfl
      exact unmarked other (List.mem_reverse.mp behind)

theorem lastMark?_cons :
    lastMark? table (use :: rest) = (lastMark? table rest).or (markOf? table use) := by
  unfold lastMark?
  rw [List.reverse_cons, List.findSome?_append, List.findSome?_singleton]

end Use

namespace ColumnRef

variable {reference : ColumnRef} {binding : Binding} {offer : Offer} {use : Use}
  {uses later rest : List Use}

/-- A column reference after some uses. -/
def follow (reference : ColumnRef) (uses : List Use) : ColumnRef :=
  uses.foldl (fun reference use => use.change reference) reference

section Change

/-- A bound reference keeps its binding, and takes the marks for the alias in it. -/
theorem change_of_bound (bound : reference.binding = some binding) (use : Use) :
    use.change reference = { reference with
      evaluatable := (use.markOf? binding.table).getD reference.evaluatable } := by
  cases use with
  | bind table level =>
      simp only [Use.change, ColumnRef.bind, bound, Use.markOf?, Option.getD_none]
      rw [← bound]
  | mark table evaluatable =>
      simp only [Use.change, setEvaluatable, bound, Use.markOf?]
      by_cases same : binding.table = table
      · rw [if_pos same, if_pos same.symm, Option.getD_some]
      · rw [if_neg same, if_neg (Ne.symm same), Option.getD_none, ← bound]
  | feed _ | reset => rfl

/-- An offer that serves a reference without a binding gives it one. -/
theorem change_of_gives (unbound : reference.binding = none)
    (gives : offer.Gives reference binding) :
    offer.use.change reference = { reference with binding := some binding } := by
  change reference.bind offer.table offer.level = _
  rw [bind_eq, unbound, offer?_eq_some.mpr gives, Option.none_or]

/-- Nothing else changes a reference without a binding. -/
theorem change_of_not_serves (unbound : reference.binding = none)
    (passed : ∀ offer : Offer, use = offer.use → ¬ offer.Serves reference) :
    use.change reference = reference := by
  cases use with
  | bind table level =>
      have noOffer := offer?_eq_none.mpr (passed ⟨table, level⟩ rfl)
      change reference.bind table level = reference
      simp only [ColumnRef.bind, unbound]
      rw [noOffer, ← unbound]
  | mark table evaluatable => simp only [Use.change, setEvaluatable, unbound]
  | feed _ | reset => rfl

end Change

section Follow

/-- A reference that is bound is marked as its alias is last, and nothing else happens to it. -/
theorem follow_of_bound (bound : reference.binding = some binding) (uses : List Use) :
    reference.follow uses = { reference with
      evaluatable := (Use.lastMark? binding.table uses).getD reference.evaluatable } := by
  unfold follow
  induction uses generalizing reference with
  | nil => rfl
  | cons use rest ih =>
      have boundStill : (use.change reference).binding = some binding := by
        rw [change_of_bound bound]
        exact bound
      rw [List.foldl_cons, ih boundStill, change_of_bound bound, Use.lastMark?_cons]
      cases Use.lastMark? binding.table rest with
      | none => rfl
      | some evaluatable => rfl

theorem not_boundBefore_nil : ¬ reference.BoundBefore [] binding later := by
  rintro ⟨before, offer, split, _⟩
  cases before with
  | nil => cases split
  | cons _ _ => cases split

/-- The first use that serves a reference binds it, and the others come later. -/
theorem boundBefore_of_serves (serves : offer.Serves reference) :
    reference.BoundBefore (offer.use :: rest) binding later ↔
      offer.Gives reference binding ∧ later = rest := by
  constructor
  · rintro ⟨before, other, split, gives, passed⟩
    cases before with
    | nil =>
        obtain ⟨same, rfl⟩ := List.cons.inj split
        rw [Offer.use_injective same]
        exact ⟨gives, rfl⟩
    | cons _ _ =>
        obtain ⟨rfl, _⟩ := List.cons.inj split
        exact absurd serves (passed offer List.mem_cons_self)
  · rintro ⟨gives, rfl⟩
    exact ⟨[], offer, rfl, gives, fun _ => nofun⟩

/-- A use that does not serve a reference has no part in how it is bound. -/
theorem boundBefore_of_not_serves
    (passed : ∀ offer : Offer, use = offer.use → ¬ offer.Serves reference) :
    reference.BoundBefore (use :: rest) binding later ↔
      reference.BoundBefore rest binding later := by
  constructor
  · rintro ⟨before, offer, split, gives, earlierPassed⟩
    cases before with
    | nil =>
        obtain ⟨isOffer, _⟩ := List.cons.inj split
        exact absurd ⟨binding, gives⟩ (passed offer isOffer)
    | cons _ before =>
        obtain ⟨rfl, rfl⟩ := List.cons.inj split
        exact ⟨before, offer, rfl, gives,
          fun earlier isEarlier => earlierPassed earlier (List.mem_cons_of_mem _ isEarlier)⟩
  · rintro ⟨before, offer, rfl, gives, earlierPassed⟩
    refine ⟨use :: before, offer, rfl, gives, ?_⟩
    intro earlier isEarlier
    rcases List.mem_cons.mp isEarlier with isFirst | isBehind
    · exact passed earlier isFirst.symm
    · exact earlierPassed earlier isBehind

/-- A reference without a binding stays as it is up to the first offer that serves it. From then on
it keeps the binding and takes the marks for the alias in it. -/
theorem follow_of_unbound (unbound : reference.binding = none) (uses : List Use) :
    reference.follow uses = reference ∧
        (∀ binding later, ¬ reference.BoundBefore uses binding later) ∨
      ∃ binding later,
        (∀ other rest, reference.BoundBefore uses other rest ↔ other = binding ∧ rest = later) ∧
        reference.follow uses = { reference with
          binding := some binding
          evaluatable := (Use.lastMark? binding.table later).getD reference.evaluatable } := by
  induction uses with
  | nil => exact .inl ⟨rfl, fun _ _ => not_boundBefore_nil⟩
  | cons use rest ih =>
      by_cases served : ∃ offer : Offer, use = offer.use ∧ offer.Serves reference
      · obtain ⟨offer, rfl, serves⟩ := served
        obtain ⟨binding, gives⟩ := serves
        refine .inr ⟨binding, rest, fun other behind => ?_, ?_⟩
        · rw [boundBefore_of_serves ⟨binding, gives⟩]
          refine and_congr_left' ⟨fun givesOther => ?_, ?_⟩
          · have same := (offer?_eq_some.mpr givesOther).symm.trans (offer?_eq_some.mpr gives)
            exact Option.some.inj same
          · rintro rfl
            exact gives
        · change (offer.use.change reference).follow rest = _
          rw [change_of_gives unbound gives, follow_of_bound rfl]
      · have passed (offer : Offer) (isOffer : use = offer.use) : ¬ offer.Serves reference :=
          fun serves => served ⟨offer, isOffer, serves⟩
        change (use.change reference).follow rest = reference ∧ _ ∨
          ∃ binding later, _ ∧ (use.change reference).follow rest = _
        simp only [boundBefore_of_not_serves passed, change_of_not_serves unbound passed]
        exact ih

/-- What an offer gives a reference depends on nothing but its name and qualifier. -/
theorem gives_congr {other : ColumnRef} (qualifier : other.qualifier = reference.qualifier)
    (name : other.name = reference.name) :
    offer.Gives other binding ↔ offer.Gives reference binding := by
  constructor
  · rintro ⟨qualified, slot, table, level⟩
    rw [qualifier] at qualified
    rw [name] at slot
    exact ⟨qualified, slot, table, level⟩
  · rintro ⟨qualified, slot, table, level⟩
    rw [← qualifier] at qualified
    rw [← name] at slot
    exact ⟨qualified, slot, table, level⟩

/-- How a reference is bound depends on nothing but its name and qualifier. -/
theorem boundBefore_congr {other : ColumnRef} (qualifier : other.qualifier = reference.qualifier)
    (name : other.name = reference.name) :
    other.BoundBefore uses binding later ↔ reference.BoundBefore uses binding later := by
  simp only [BoundBefore, Offer.Serves, gives_congr qualifier name]

/-- A fresh reference ends up evaluatable if it is bound and the last mark since then for the alias
in its binding makes it so. -/
theorem evaluatable_follow_iff (fresh : reference.IsFresh) (uses : List Use) :
    (reference.follow uses).evaluatable = true ↔ ∃ binding later,
      (reference.follow uses).binding = some binding ∧
        (reference.follow uses).BoundBefore uses binding later ∧
          LastMark binding.table true later := by
  rcases reference.follow_of_unbound fresh.unbound uses with
    ⟨same, never⟩ | ⟨binding, later, only, follows⟩
  · rw [same, fresh.unmarked]
    exact ⟨nofun, fun ⟨_, _, _, bound, _⟩ => absurd bound (never _ _)⟩
  · have onlyHere (other : Binding) (rest : List Use) :
        (reference.follow uses).BoundBefore uses other rest ↔ other = binding ∧ rest = later := by
      rw [← only, follows]
      exact boundBefore_congr rfl rfl
    have isBound : (reference.follow uses).binding = some binding := by rw [follows]
    have isMarked : (reference.follow uses).evaluatable = true ↔
        LastMark binding.table true later := by
      rw [← Use.lastMark?_eq_some, follows, fresh.unmarked]
      cases Use.lastMark? binding.table later with
      | none => exact ⟨nofun, nofun⟩
      | some evaluatable => exact Option.some_inj.symm
    rw [isMarked, isBound]
    constructor
    · intro marked
      exact ⟨binding, later, rfl, (onlyHere _ _).mpr ⟨rfl, rfl⟩, marked⟩
    · rintro ⟨_, _, _, bound, marked⟩
      obtain ⟨rfl, rfl⟩ := (onlyHere _ _).mp bound
      exact marked

end Follow

/-- Uses for different aliases do not get in each other's way once a reference is bound. -/
theorem change_comm {first second : Use} {table other : String}
    (bound : reference.binding = some binding) (isFirst : first.table? = some table)
    (isSecond : second.table? = some other) (apart : table ≠ other) :
    second.change (first.change reference) = first.change (second.change reference) := by
  have afterFirst : (first.change reference).binding = some binding := by
    rw [change_of_bound bound]
    exact bound
  have afterSecond : (second.change reference).binding = some binding := by
    rw [change_of_bound bound]
    exact bound
  rw [change_of_bound afterFirst, change_of_bound afterSecond, change_of_bound bound,
    change_of_bound bound]
  by_cases named : table = binding.table
  · have passed : second.table? ≠ some binding.table := by
      rw [isSecond, ← named]
      exact fun same => apart (Option.some.inj same).symm
    simp only [Use.markOf?_of_ne passed, Option.getD_none]
  · have passed : first.table? ≠ some binding.table := by
      rw [isFirst]
      exact fun same => named (Option.some.inj same)
    simp only [Use.markOf?_of_ne passed, Option.getD_none]

end ColumnRef

namespace Expr

variable {expr : Expr} {change other : ColumnRef → ColumnRef}

/-- Changing the columns of an expression changes each in the list of its columns. -/
theorem columns_mapColumns (change : ColumnRef → ColumnRef) (expr : Expr) :
    (expr.mapColumns change).columns = expr.columns.map change := by
  unfold columns
  induction expr with
  | literal _ | column _ | parameter _ => rfl
  | negate _ _ ih => exact ih
  | binary _ _ _ _ _ leftIH rightIH =>
      simp only [mapColumns, tally, leftIH, rightIH, Multiset.map_add]
  | call _ _ _ _ _ unitIH firstIH secondIH =>
      simp only [mapColumns, tally, unitIH, firstIH, secondIH, Multiset.map_add]
  | aggregate _ _ _ _ ih => exact ih

/-- Changes that are the same on the columns of an expression are the same on the expression. -/
theorem mapColumns_congr (same : ∀ reference ∈ expr.columns, change reference = other reference) :
    expr.mapColumns change = expr.mapColumns other := by
  unfold columns at same
  induction expr with
  | literal _ | parameter _ => rfl
  | column reference => rw [mapColumns, mapColumns, same reference (Multiset.mem_singleton_self _)]
  | negate _ _ ih => rw [mapColumns, mapColumns, ih same]
  | binary _ _ _ _ _ leftIH rightIH =>
      simp only [tally, Multiset.mem_add, or_imp, forall_and] at same
      rw [mapColumns, mapColumns, leftIH same.1, rightIH same.2]
  | call _ _ _ _ _ unitIH firstIH secondIH =>
      simp only [tally, Multiset.mem_add, or_imp, forall_and] at same
      rw [mapColumns, mapColumns, unitIH same.1.1, firstIH same.1.2, secondIH same.2]
  | aggregate _ _ _ _ ih => rw [mapColumns, mapColumns, ih same]

/-- Feeding a row leaves the column references alone. -/
theorem columns_feed (context : Context) (expr : Expr) :
    (expr.feed context).subject.columns = expr.columns := by
  unfold columns
  induction expr with
  | literal _ | column _ | parameter _ => rfl
  | negate _ _ ih => exact ih
  | binary _ _ _ _ _ leftIH rightIH =>
      simp only [feed]
      split
      · simp only [tally, leftIH]
      · simp only [tally, leftIH, rightIH]
  | call _ _ _ _ _ unitIH firstIH secondIH =>
      simp only [feed]
      split
      · simp only [tally, unitIH]
      · split
        · simp only [tally, unitIH, firstIH]
        · simp only [tally, unitIH, firstIH, secondIH]
  | aggregate _ _ _ _ _ =>
      simp only [feed]
      split <;> rfl

theorem columns_reset (expr : Expr) : expr.reset.columns = expr.columns := by
  cases expr <;> rfl

end Expr

namespace Use

variable {expr : Expr} {use : Use} {table : String}

/-- A use changes each column reference on its own. -/
theorem columns_apply (expr : Expr) (use : Use) :
    (apply expr use).columns = expr.columns.map use.change := by
  cases use with
  | bind table level => exact Expr.columns_mapColumns _ expr
  | mark table evaluatable => exact Expr.columns_mapColumns _ expr
  | feed context => exact (expr.columns_feed context).trans (Multiset.map_id' _).symm
  | reset => exact expr.columns_reset.trans (Multiset.map_id' _).symm

/-- The columns of an expression follow the uses one by one. -/
theorem columns_run (expr : Expr) (uses : List Use) :
    (run expr uses).columns = expr.columns.map fun reference => reference.follow uses := by
  unfold run
  induction uses generalizing expr with
  | nil => exact (Multiset.map_id' _).symm
  | cons use rest ih =>
      rw [List.foldl_cons, ih, columns_apply, Multiset.map_map]
      rfl

theorem apply_eq_mapColumns (isFor : use.table? = some table) :
    apply expr use = expr.mapColumns use.change := by
  cases use with
  | bind _ _ | mark _ _ => rfl
  | feed _ | reset => cases isFor

end Use

/-- A freshly built expression is evaluatable after some uses if every reference in it has been
bound and the last mark since then for the alias it is bound through makes it so. Once every
reference is bound, offers and marks for different aliases can change places. -/
theorem evaluatable_by_last_marks {expr : Expr}
    (fresh : ∀ reference ∈ expr.columns, reference.IsFresh) (uses : List Use) :
    ((Use.run expr uses).has .evaluatable = true ↔
      ∀ reference ∈ (Use.run expr uses).columns, ∃ binding later,
        reference.binding = some binding ∧ reference.BoundBefore uses binding later ∧
          LastMark binding.table true later) ∧
    ∀ bound : Expr, (∀ reference ∈ bound.columns, reference.binding.isSome = true) →
      ∀ (first second : Use) (table other : String), first.table? = some table →
        second.table? = some other → table ≠ other →
          Use.apply (Use.apply bound first) second = Use.apply (Use.apply bound second) first := by
  constructor
  · rw [Expr.has_iff_columns, Use.columns_run]
    simp only [Multiset.forall_mem_map_iff]
    refine forall₂_congr fun reference mentioned => ?_
    exact reference.evaluatable_follow_iff (fresh reference mentioned) uses
  · intro bound areBound first second table other isFirst isSecond apart
    rw [Use.apply_eq_mapColumns isSecond, Use.apply_eq_mapColumns isFirst,
      Use.apply_eq_mapColumns isFirst, Use.apply_eq_mapColumns isSecond,
      Expr.mapColumns_mapColumns, Expr.mapColumns_mapColumns]
    apply Expr.mapColumns_congr
    intro reference mentioned
    obtain ⟨binding, isBound⟩ := Option.isSome_iff_exists.mp (areBound reference mentioned)
    exact ColumnRef.change_comm isBound isFirst isSecond apart

/-- The column of the inner table is bound by the fourth use. The first mark for that table comes
too early and the fifth use names another alias, but the last mark but one counts. -/
theorem evaluatable_by_last_marks_of_two_tables :
    let outer : Table := ⟨"U", [⟨"B", .varchar⟩]⟩
    let inner : Table := ⟨"T", [⟨"A", .timestamp⟩]⟩
    let expr : Expr := .concat (.aggregated .max (.qualified "t" "A")) (.named "b")
    let uses : List Use := [.mark "T" true, .bind outer 1, .mark "U" true, .bind inner 0,
      .mark "t" true, .mark "U" false, .mark "T" true, .mark "U" true]
    let day : ColumnRef := ⟨some "t", "A", some ⟨"T", ⟨0, .timestamp⟩, 0⟩, true⟩
    let label : ColumnRef := ⟨none, "b", some ⟨"U", ⟨0, .varchar⟩, 1⟩, true⟩
    (∀ reference ∈ expr.columns, reference.IsFresh) ∧
      (Use.run expr uses).columns = {day, label} ∧ (Use.run expr uses).has .evaluatable = true ∧
      (∃ binding later, day.binding = some binding ∧ day.BoundBefore uses binding later ∧
        LastMark binding.table true later) ∧
      Use.apply (Use.apply (Use.run expr uses) (.mark "T" false)) (.bind ⟨"S", []⟩ 2) =
        Use.apply (Use.apply (Use.run expr uses) (.bind ⟨"S", []⟩ 2)) (.mark "T" false) := by
  intro outer inner expr uses day label
  have fresh : ∀ reference ∈ expr.columns, reference.IsFresh := by
    intro reference mentioned
    have mentions : expr.columns = {⟨some "t", "A", none, false⟩, ⟨none, "b", none, false⟩} := rfl
    rw [mentions, Multiset.insert_eq_cons, Multiset.mem_cons, Multiset.mem_singleton] at mentioned
    rcases mentioned with rfl | rfl
    · exact ⟨rfl, rfl⟩
    · exact ⟨rfl, rfl⟩
  have columns : (Use.run expr uses).columns = {day, label} := by decide +kernel
  have marked : (Use.run expr uses).has .evaluatable = true := by decide +kernel
  have areBound : ∀ reference ∈ (Use.run expr uses).columns, reference.binding.isSome = true := by
    rw [columns]
    decide
  obtain ⟨follows, commutes⟩ := evaluatable_by_last_marks fresh uses
  have isColumn : day ∈ (Use.run expr uses).columns := by
    rw [columns]
    exact Multiset.mem_cons_self day {label}
  exact ⟨fresh, columns, marked, follows.mp marked day isColumn,
    commutes _ areBound (.mark "T" false) (.bind ⟨"S", []⟩ 2) "T" "S" rfl rfl (by decide)⟩

end SqlScalar
