import SqlScalar.Expr.Binding
import SqlScalar.Expr.Property
import SqlScalar.Expr.Resolution
import SqlScalar.Expr.Size

/-! # Drafts of calls

A call of a date function is drafted by filling its three slots in any order, each as
often as one likes. It is complete once every slot is filled, and then an expression like
any other.
-/

namespace SqlScalar

/-- A call of a date function some of whose arguments may be missing. -/
structure CallDraft where
  function : DateFunction
  unit : Option Expr
  first : Option Expr
  second : Option Expr

namespace CallDraft

/-- The draft of a call of the function with a given name, with all slots empty. -/
def start (name : String) : Outcome CallDraft :=
  match DateFunction.ofName? name with
  | some function => .ok ⟨function, none, none, none⟩
  | none => .error (.unknownFunction name)

/-- The arguments that are there, in order. -/
def arguments (draft : CallDraft) : List Expr :=
  draft.unit.toList ++ draft.first.toList ++ draft.second.toList

/-- The draft with one slot filled, whatever was in it. A place that is none of a slot is
reported by its number, which for the last place of all is zero: the addition wraps around. Where
additions are checked the program stops there, at this one place. -/
def set (draft : CallDraft) (index : Index) (argument : Expr) : Outcome CallDraft :=
  match index.toNat with
  | 0 => .ok { draft with unit := some argument }
  | 1 => .ok { draft with first := some argument }
  | 2 => .ok { draft with second := some argument }
  | _ => .error (.argumentCount draft.function index.number)

/-- The draft with its slots filled from one on, with as many arguments. -/
def setFrom (index : Index) (draft : CallDraft) : List Expr → Outcome CallDraft
  | [] => .ok draft
  | argument :: rest => do
      let draft ← draft.set index argument
      draft.setFrom (index + 1) rest

/-- The call, once it has all its arguments. -/
def complete (draft : CallDraft) : Outcome Expr :=
  match draft.unit, draft.first, draft.second with
  | some unit, some first, some second => .ok (.call draft.function unit first second none)
  | _, _, _ => .error (.argumentCount draft.function draft.arguments.length)

/-- A call with the arguments it has so far changed in the same way. -/
def mapArguments (change : Expr → Expr) (draft : CallDraft) : CallDraft :=
  { draft with
    unit := draft.unit.map change
    first := draft.first.map change
    second := draft.second.map change }

/-- The draft with the column references in its arguments offered a table. -/
def bindColumns (table : Table) (level : Nat) : CallDraft → CallDraft :=
  mapArguments (Expr.bindColumns table level)

/-- Whether all arguments so far have a property. -/
def has (draft : CallDraft) (property : Property) : Bool :=
  draft.arguments.all fun argument => argument.has property

/-- The cost of a call with the arguments it has so far. -/
def cost (draft : CallDraft) : Int :=
  draft.arguments.foldl (fun total argument => total + argument.cost) 3

/-- A draft as SQL text, with the arguments that are there. -/
def sql (draft : CallDraft) : String :=
  String.ofList (callText draft.function.name (draft.arguments.map Expr.text))

/-- The type of a draft, which is not known before it is complete and resolved. -/
def type (_ : CallDraft) : DataType :=
  .unknown

/-- A call is resolved only when all its arguments are there. -/
def resolve (mode : Mode) (draft : CallDraft) : Outcome Expr := do
  (← draft.complete).resolve mode

/-- The value of a draft: there is none, since it is not resolved. -/
def evaluate (draft : CallDraft) : Outcome Value :=
  .error (.misuse (.unresolvedCall draft.sql))

end CallDraft

/-- The call of the function with a given name, which must be given three arguments. -/
def Expr.call? (name : String) (arguments : List Expr) : Outcome Expr := do
  let draft ← CallDraft.start name
  let draft ← draft.setFrom 0 arguments
  draft.complete

end SqlScalar
