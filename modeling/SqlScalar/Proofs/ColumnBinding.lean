import SqlScalar.Expr.CallDraft
import SqlScalar.Proofs.LaterUse

/-! # Binding of columns

Tables are offered to an expression one after another. Each column reference in it takes the first
table that it may mean and that has a column of its name, and keeps it, whatever is offered later.
An expression that is resolved has no reference left that takes any table.
-/

namespace SqlScalar

/-- Whether a list is split in front of the first of its elements that have a property. -/
structure SplitsAtFirst {Element : Type} (holds : Element → Prop) (before : List Element)
    (first : Element) (list : List Element) : Prop where
  split : ∃ after, list = before ++ first :: after
  first_holds : holds first
  passed : ∀ element ∈ before, ¬ holds element

/-- Whether a column has a name, whatever its letter case. -/
def Column.IsNamed (name : String) (column : Column) : Prop :=
  Text.sameName column.name name = true

/-- Whether a slot is that of the first column of a table with a name. -/
def Table.FirstNamed (table : Table) (name : String) (slot : Slot) : Prop :=
  ∃ before column, SplitsAtFirst (Column.IsNamed name) before column table.columns ∧
    slot = ⟨before.length, column.type⟩

/-- A table offered to column references, at a query level. -/
structure Offer where
  table : Table
  level : Nat

/-- Whether an offer gives a reference a binding: the table is the one that the reference names, if
it names one, and has a column of its name. -/
structure Offer.Gives (offer : Offer) (reference : ColumnRef) (binding : Binding) : Prop where
  qualified : ∀ qualifier, reference.qualifier = some qualifier →
    Text.sameName qualifier offer.table.name = true
  slot : offer.table.FirstNamed reference.name binding.slot
  table : binding.table = offer.table.name
  level : binding.level = offer.level

/-- Whether an offer gives a reference any binding. -/
def Offer.Serves (reference : ColumnRef) (offer : Offer) : Prop :=
  ∃ binding, offer.Gives reference binding

/-- Whether a binding is the one that the first offer that serves a reference gives it. There is
none if no offer does. -/
def FirstGiven (offers : List Offer) (reference : ColumnRef) : Option Binding → Prop
  | some binding => ∃ before offer, SplitsAtFirst (Offer.Serves reference) before offer offers ∧
      offer.Gives reference binding
  | none => ∀ offer ∈ offers, ¬ Offer.Serves reference offer

/-- Whether a reference differs from another one only in the binding it has, which is the first one
given. -/
structure ColumnRef.BoundBy (offers : List Offer) (reference bound : ColumnRef) : Prop where
  first : FirstGiven offers reference bound.binding
  qualifier : bound.qualifier = reference.qualifier
  name : bound.name = reference.name
  evaluatable : bound.evaluatable = reference.evaluatable

namespace SplitsAtFirst

variable {Element : Type} {holds : Element → Prop} {before rest : List Element}
  {head first : Element}

theorem not_nil : ¬ SplitsAtFirst holds before first [] := by
  rintro ⟨⟨after, same⟩, _, _⟩
  cases before with
  | nil => cases same
  | cons _ _ => cases same

/-- A list whose first element has the property is split in front of it. -/
theorem cons_of_holds (headHolds : holds head) :
    SplitsAtFirst holds before first (head :: rest) ↔ before = [] ∧ first = head := by
  constructor
  · rintro ⟨⟨after, same⟩, _, passed⟩
    cases before with
    | nil =>
        cases same
        exact ⟨rfl, rfl⟩
    | cons _ before =>
        cases same
        exact absurd headHolds (passed head List.mem_cons_self)
  · rintro ⟨rfl, rfl⟩
    exact ⟨⟨rest, rfl⟩, headHolds, List.forall_mem_nil _⟩

/-- A list whose first element does not have the property is split where the rest is. -/
theorem cons_of_not_holds (headPassed : ¬ holds head) :
    SplitsAtFirst holds before first (head :: rest) ↔
      ∃ behind, before = head :: behind ∧ SplitsAtFirst holds behind first rest := by
  constructor
  · rintro ⟨⟨after, same⟩, firstHolds, passed⟩
    cases before with
    | nil =>
        cases same
        exact absurd firstHolds headPassed
    | cons _ before =>
        cases same
        exact ⟨before, rfl, ⟨after, rfl⟩, firstHolds, (List.forall_mem_cons.mp passed).2⟩
  · rintro ⟨behind, rfl, ⟨after, rfl⟩, firstHolds, passed⟩
    exact ⟨⟨after, rfl⟩, firstHolds, List.forall_mem_cons.mpr ⟨headPassed, passed⟩⟩

end SplitsAtFirst

namespace Table

variable {name : String} {columns : List Column} {slot : Slot} {start : Nat}

/-- Columns are searched from the front, and their places counted on from where they start. -/
theorem findFrom_eq_some : findFrom name start columns = some slot ↔
    ∃ before column, SplitsAtFirst (Column.IsNamed name) before column columns ∧
      slot = ⟨start + before.length, column.type⟩ := by
  induction columns generalizing start with
  | nil => exact ⟨nofun, fun ⟨_, _, split, _⟩ => absurd split SplitsAtFirst.not_nil⟩
  | cons column rest ih =>
      rw [findFrom]
      by_cases same : Text.sameName column.name name = true
      · have named : Column.IsNamed name column := same
        rw [if_pos same, Option.some.injEq]
        constructor
        · rintro rfl
          exact ⟨[], column, (SplitsAtFirst.cons_of_holds named).mpr ⟨rfl, rfl⟩, rfl⟩
        · rintro ⟨_, _, split, rfl⟩
          obtain ⟨rfl, rfl⟩ := (SplitsAtFirst.cons_of_holds named).mp split
          rfl
      · have passed : ¬ Column.IsNamed name column := same
        have counted (before : List Column) :
            start + (column :: before).length = start + 1 + before.length := by
          rw [List.length_cons]
          omega
        rw [if_neg same, ih]
        constructor
        · rintro ⟨before, found, split, rfl⟩
          refine ⟨column :: before, found,
            (SplitsAtFirst.cons_of_not_holds passed).mpr ⟨before, rfl, split⟩, ?_⟩
          rw [counted]
        · rintro ⟨_, found, split, rfl⟩
          obtain ⟨before, rfl, behind⟩ := (SplitsAtFirst.cons_of_not_holds passed).mp split
          refine ⟨before, found, behind, ?_⟩
          rw [counted]

theorem find?_eq_some {table : Table} :
    table.find? name = some slot ↔ table.FirstNamed name slot := by
  unfold find? FirstNamed
  simp only [findFrom_eq_some, Nat.zero_add]

end Table

namespace ColumnRef

variable {offer : Offer} {offers : List Offer} {reference bound : ColumnRef} {binding : Binding}

/-- A reference admits a table just if it names no other one. -/
theorem admits_iff {table : Table} : reference.admits table = true ↔
    ∀ qualifier, reference.qualifier = some qualifier →
      Text.sameName qualifier table.name = true := by
  unfold admits
  cases reference.qualifier with
  | none => exact ⟨fun _ => nofun, fun _ => rfl⟩
  | some qualifier =>
      refine ⟨?_, fun named => named qualifier rfl⟩
      rintro named _ ⟨⟩
      exact named

/-- What an offer comes to is the binding that it gives. -/
theorem offer?_eq_some : reference.offer? offer.table offer.level = some binding ↔
    offer.Gives reference binding := by
  unfold offer?
  by_cases admitted : reference.admits offer.table = true
  · rw [if_pos admitted, Option.map_eq_some_iff]
    constructor
    · rintro ⟨slot, found, rfl⟩
      exact ⟨admits_iff.mp admitted, Table.find?_eq_some.mp found, rfl, rfl⟩
    · rintro ⟨_, found, table, level⟩
      refine ⟨binding.slot, Table.find?_eq_some.mpr found, ?_⟩
      rw [← table, ← level]
  · rw [if_neg admitted]
    refine ⟨nofun, fun gives => ?_⟩
    exact absurd (admits_iff.mpr gives.qualified) admitted

theorem offer?_eq_none : reference.offer? offer.table offer.level = none ↔
    ¬ offer.Serves reference := by
  simp only [Offer.Serves, ← offer?_eq_some, Option.eq_none_iff_forall_ne_some, not_exists]

/-- What the first offer that serves a reference gives it. -/
def firstOffer? (reference : ColumnRef) (offers : List Offer) : Option Binding :=
  offers.findSome? fun offer => reference.offer? offer.table offer.level

/-- The binding that is given first is the one found by going through the offers. -/
theorem firstGiven_iff {given : Option Binding} :
    FirstGiven offers reference given ↔ given = reference.firstOffer? offers := by
  unfold firstOffer?
  cases given with
  | none =>
      rw [eq_comm, List.findSome?_eq_none_iff]
      simp only [FirstGiven, offer?_eq_none]
  | some binding =>
      rw [eq_comm, List.findSome?_eq_some_iff]
      constructor
      · rintro ⟨before, offer, ⟨⟨after, split⟩, _, passed⟩, gives⟩
        exact ⟨before, offer, after, split, offer?_eq_some.mpr gives,
          fun earlier isEarlier => offer?_eq_none.mpr (passed earlier isEarlier)⟩
      · rintro ⟨before, offer, after, split, given, passed⟩
        have gives := offer?_eq_some.mp given
        exact ⟨before, offer, ⟨⟨after, split⟩, ⟨binding, gives⟩,
          fun earlier isEarlier => offer?_eq_none.mp (passed earlier isEarlier)⟩, gives⟩

/-- The reference after some offers, one after another. -/
def bindAll (reference : ColumnRef) (offers : List Offer) : ColumnRef :=
  offers.foldl (fun reference offer => reference.bind offer.table offer.level) reference

/-- A reference keeps the binding it has, and takes what it is offered otherwise. -/
theorem bind_eq (reference : ColumnRef) (offer : Offer) :
    reference.bind offer.table offer.level =
      { reference with
        binding := reference.binding.or (reference.offer? offer.table offer.level) } := by
  unfold bind
  cases isBound : reference.binding with
  | none => rfl
  | some binding =>
      cases reference
      cases isBound
      rfl

/-- A reference that is bound stays bound, and any other is bound by the first offer that serves
it. -/
theorem bindAll_eq (reference : ColumnRef) (offers : List Offer) :
    reference.bindAll offers =
      { reference with binding := reference.binding.or (reference.firstOffer? offers) } := by
  unfold bindAll
  induction offers generalizing reference with
  | nil =>
      have none : reference.firstOffer? [] = none := rfl
      rw [none, Option.or_none, List.foldl_nil]
  | cons offer rest ih =>
      -- Binding changes neither the name nor the qualifier, so the offers behind it are the same.
      have next : reference.firstOffer? (offer :: rest) =
          (reference.offer? offer.table offer.level).or (reference.firstOffer? rest) := by
        unfold firstOffer?
        rw [List.findSome?_cons]
        cases reference.offer? offer.table offer.level with
        | none => rfl
        | some binding => rfl
      rw [List.foldl_cons, bind_eq, ih, next, ← Option.or_assoc]
      rfl

/-- An unbound reference is bound by some offers just as binding it to one after another does. -/
theorem boundBy_iff (unbound : reference.binding = none) :
    reference.BoundBy offers bound ↔ bound = reference.bindAll offers := by
  rw [bindAll_eq, unbound, Option.none_or]
  constructor
  · rintro ⟨first, qualifier, name, evaluatable⟩
    rw [← firstGiven_iff.mp first, ← qualifier, ← name, ← evaluatable]
  · rintro rfl
    exact ⟨firstGiven_iff.mpr rfl, rfl, rfl, rfl⟩

end ColumnRef

namespace Expr

/-- Whether two expressions are the same node for node, but for column references, which are
related. -/
inductive Columnwise (related : ColumnRef → ColumnRef → Prop) : Expr → Expr → Prop
  | literal (value : Value) : Columnwise related (.literal value) (.literal value)
  | column {reference other : ColumnRef} (isRelated : related reference other) :
      Columnwise related (.column reference) (.column other)
  | parameter (index : Index) : Columnwise related (.parameter index) (.parameter index)
  | negate {operand operand' : Expr} (resolved : Option DataType)
      (operandWise : Columnwise related operand operand') :
      Columnwise related (.negate operand resolved) (.negate operand' resolved)
  | binary (op : BinaryOp) {left left' right right' : Expr} (resolved : Option DataType)
      (converts : Bool) (leftWise : Columnwise related left left')
      (rightWise : Columnwise related right right') :
      Columnwise related (.binary op left right resolved converts)
        (.binary op left' right' resolved converts)
  | call (function : DateFunction) {unit unit' first first' second second' : Expr}
      (resolved : Option DataType) (unitWise : Columnwise related unit unit')
      (firstWise : Columnwise related first first')
      (secondWise : Columnwise related second second') :
      Columnwise related (.call function unit first second resolved)
        (.call function unit' first' second' resolved)
  | aggregate (kind : AggregateKind) {argument argument' : Expr} (resolved : Option DataType)
      (state : AggregateState) (argumentWise : Columnwise related argument argument') :
      Columnwise related (.aggregate kind argument resolved state)
        (.aggregate kind argument' resolved state)

/-- Whether every column reference in an expression has a property. -/
def EveryColumn (holds : ColumnRef → Prop) : Expr → Prop
  | literal _ | parameter _ => True
  | column reference => holds reference
  | negate operand _ => operand.EveryColumn holds
  | binary _ left right _ _ => left.EveryColumn holds ∧ right.EveryColumn holds
  | call _ unit first second _ =>
      unit.EveryColumn holds ∧ first.EveryColumn holds ∧ second.EveryColumn holds
  | aggregate _ argument _ _ => argument.EveryColumn holds

/-- Whether no column reference in an expression is bound. -/
def Unbound : Expr → Prop :=
  EveryColumn fun reference => reference.binding = none

/-- The expression after some offers, one after another. -/
def bindAll (expr : Expr) (offers : List Offer) : Expr :=
  offers.foldl (fun expr offer => expr.bindColumns offer.table offer.level) expr

variable {expr result : Expr} {related : ColumnRef → ColumnRef → Prop}
  {change : ColumnRef → ColumnRef}

/-- Changing the columns of an expression relates them one by one. -/
theorem columnwise_mapColumns
    (relates : expr.EveryColumn fun reference => related reference (change reference)) :
    Columnwise related expr (expr.mapColumns change) := by
  induction expr with
  | literal value => exact .literal value
  | column reference => exact .column relates
  | parameter index => exact .parameter index
  | negate operand resolved ih => exact .negate resolved (ih relates)
  | binary op left right resolved converts leftIH rightIH =>
      exact .binary op resolved converts (leftIH relates.1) (rightIH relates.2)
  | call function unit first second resolved unitIH firstIH secondIH =>
      exact .call function resolved (unitIH relates.1) (firstIH relates.2.1)
        (secondIH relates.2.2)
  | aggregate kind argument resolved state ih => exact .aggregate kind resolved state (ih relates)

/-- If each column reference is related to one other only, so is the expression. -/
theorem Columnwise.eq_mapColumns (wise : Columnwise related expr result)
    (determines : expr.EveryColumn fun reference =>
      ∀ other, related reference other → other = change reference) :
    result = expr.mapColumns change := by
  induction wise with
  | literal _ | parameter _ => rfl
  | column isRelated => rw [mapColumns, determines _ isRelated]
  | negate _ _ ih => rw [mapColumns, ih determines]
  | binary _ _ _ _ _ leftIH rightIH => rw [mapColumns, leftIH determines.1, rightIH determines.2]
  | call _ _ _ _ _ unitIH firstIH secondIH =>
      rw [mapColumns, unitIH determines.1, firstIH determines.2.1, secondIH determines.2.2]
  | aggregate _ _ _ _ ih => rw [mapColumns, ih determines]

/-- What follows of a column for every column follows for all of them. -/
theorem EveryColumn.imp {holds holds' : ColumnRef → Prop} (every : expr.EveryColumn holds)
    (implies : ∀ reference, holds reference → holds' reference) : expr.EveryColumn holds' := by
  induction expr with
  | literal _ | parameter _ => trivial
  | column reference => exact implies reference every
  | negate _ _ ih => exact ih every
  | binary _ _ _ _ _ leftIH rightIH => exact ⟨leftIH every.1, rightIH every.2⟩
  | call _ _ _ _ _ unitIH firstIH secondIH =>
      exact ⟨unitIH every.1, firstIH every.2.1, secondIH every.2.2⟩
  | aggregate _ _ _ _ ih => exact ih every

/-- An expression with its columns as they are is the same. -/
theorem mapColumns_same (expr : Expr) : expr.mapColumns (fun reference => reference) = expr := by
  induction expr with
  | literal _ | column _ | parameter _ => rfl
  | negate _ _ ih => rw [mapColumns, ih]
  | binary _ _ _ _ _ leftIH rightIH => rw [mapColumns, leftIH, rightIH]
  | call _ _ _ _ _ unitIH firstIH secondIH => rw [mapColumns, unitIH, firstIH, secondIH]
  | aggregate _ _ _ _ ih => rw [mapColumns, ih]

/-- Changes of columns one after another are one change. -/
theorem mapColumns_mapColumns (change other : ColumnRef → ColumnRef) (expr : Expr) :
    (expr.mapColumns change).mapColumns other =
      expr.mapColumns fun reference => other (change reference) := by
  induction expr with
  | literal _ | column _ | parameter _ => rfl
  | negate _ _ ih => simp only [mapColumns, ih]
  | binary _ _ _ _ _ leftIH rightIH => simp only [mapColumns, leftIH, rightIH]
  | call _ _ _ _ _ unitIH firstIH secondIH => simp only [mapColumns, unitIH, firstIH, secondIH]
  | aggregate _ _ _ _ ih => simp only [mapColumns, ih]

/-- What is offered to an expression is offered to each column reference in it. -/
theorem bindAll_eq_mapColumns (expr : Expr) (offers : List Offer) :
    expr.bindAll offers = expr.mapColumns fun reference => reference.bindAll offers := by
  unfold bindAll
  induction offers generalizing expr with
  | nil => exact expr.mapColumns_same.symm
  | cons offer rest ih =>
      rw [List.foldl_cons, ih, bindColumns, mapColumns_mapColumns]
      rfl

/-- An expression without bound references ends with each of them bound by the first offer that
serves it, and is the same in every other part. -/
theorem columnwise_boundBy_iff (unbound : expr.Unbound) (offers : List Offer) :
    Columnwise (ColumnRef.BoundBy offers) expr result ↔ result = expr.bindAll offers := by
  rw [bindAll_eq_mapColumns]
  constructor
  · intro wise
    apply wise.eq_mapColumns
    exact EveryColumn.imp unbound fun reference isUnbound other =>
      (ColumnRef.boundBy_iff isUnbound).mp
  · rintro rfl
    apply columnwise_mapColumns
    exact EveryColumn.imp unbound fun reference isUnbound =>
      (ColumnRef.boundBy_iff isUnbound).mpr rfl

end Expr

namespace CallDraft

/-- The draft after some offers, one after another. -/
def bindAll (draft : CallDraft) (offers : List Offer) : CallDraft :=
  offers.foldl (fun draft offer => draft.bindColumns offer.table offer.level) draft

/-- What is offered to a draft is offered to the arguments that are there. -/
theorem bindAll_eq_mapArguments (draft : CallDraft) (offers : List Offer) :
    draft.bindAll offers = draft.mapArguments fun argument => argument.bindAll offers := by
  unfold bindAll
  induction offers generalizing draft with
  | nil =>
      have same : (fun argument : Expr => argument.bindAll []) = id := rfl
      simp only [mapArguments, same, Option.map_id, id_eq]
      rfl
  | cons offer rest ih =>
      rw [List.foldl_cons, ih]
      simp only [bindColumns, mapArguments, Option.map_map]
      rfl

end CallDraft

/-- A column reference that is not bound is bound by the first offer that serves it, and nothing
else in an expression changes. Once an expression is resolved, no offer changes it any more,
whatever has been done to it meanwhile. -/
theorem columns_bound_by_first_offer {expr : Expr} (unbound : expr.Unbound) (offers : List Offer) :
    (∀ result, expr.Columnwise (ColumnRef.BoundBy offers) result ↔ result = expr.bindAll offers) ∧
    (∀ draft : CallDraft,
      draft.bindAll offers = draft.mapArguments fun argument => argument.bindAll offers) ∧
    ∀ (mode : Mode) (built resolved : Expr), built.resolve mode = .ok resolved →
      ∀ (uses : List Use) (table : Table) (level : Nat),
        (Use.run resolved uses).bindColumns table level = Use.run resolved uses := by
  refine ⟨fun _ => Expr.columnwise_boundBy_iff unbound offers,
    fun draft => draft.bindAll_eq_mapArguments offers, ?_⟩
  intro mode built resolved resolves uses table level
  have settled := Use.resolved_run (.of_resolve resolves) uses
  exact Expr.bindColumns_of_resolved settled table level

/-- The maximum is over the first column `A` of the inner table, since the outer one is not named
`t`, and `b` is a column of the outer table, since that is offered first. -/
theorem columns_bound_by_outer_and_inner_table :
    let outer : Table := ⟨"U", [⟨"B", .varchar⟩]⟩
    let inner : Table := ⟨"T", [⟨"b", .integer⟩, ⟨"a", .date⟩, ⟨"A", .timestamp⟩]⟩
    let offers : List Offer := [⟨outer, 1⟩, ⟨inner, 0⟩]
    let expr : Expr := .concat (.aggregated .max (.qualified "t" "A"))
      (.concat (.named "b") (.named "C"))
    let label : ColumnRef := ⟨none, "b", some ⟨"U", ⟨0, .varchar⟩, 1⟩, false⟩
    let day : ColumnRef := ⟨some "t", "A", some ⟨"T", ⟨1, .date⟩, 0⟩, false⟩
    let use : Use := .mark "U" true
    expr.Unbound ∧
      expr.Columnwise (ColumnRef.BoundBy offers) (.concat (.aggregated .max (.column day))
        (.concat (.column label) (.named "C"))) ∧
      (Expr.column label).resolve .regular = .ok (.column label) ∧
      (Use.run (.column label) [use]).bindColumns inner 0 = Use.run (.column label) [use] := by
  intro outer inner offers expr label day use
  have unbound : expr.Unbound := ⟨rfl, rfl, rfl⟩
  have resolves : (Expr.column label).resolve .regular = .ok (.column label) := rfl
  obtain ⟨binds, _, settles⟩ := columns_bound_by_first_offer unbound offers
  exact ⟨unbound, (binds _).mpr (by decide +kernel), resolves, settles _ _ _ resolves [use] inner 0⟩

end SqlScalar
