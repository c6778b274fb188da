import SqlScalar.Proofs.FoldingAgreement
import SqlScalar.Proofs.ParallelNodes

/-! # Surroundings of an expression

The surroundings of an expression are the nodes on the way from it to the root of a tree, each
with the operands it has besides. What such a node is resolved to depends on the expression in it
only through what that is resolved to, so a relation between two expressions that every node
carries outwards holds between the trees.
-/

namespace SqlScalar

open Calendar Resolution

/-- A node that lacks one of its operands. -/
inductive Frame where
  | negate
  | leftOf (op : BinaryOp) (right : Expr)
  | rightOf (op : BinaryOp) (left : Expr)
  | unitOf (function : DateFunction) (first second : Expr)
  | firstOf (function : DateFunction) (unit second : Expr)
  | secondOf (function : DateFunction) (unit first : Expr)
  | aggregate (kind : AggregateKind) (state : AggregateState)

namespace Frame

/-- The node with an expression in the place of the missing operand, not resolved yet. -/
def plug (inner : Expr) : Frame → Expr
  | negate => .negated inner
  | leftOf op right => .operation op inner right
  | rightOf op left => .operation op left inner
  | unitOf function first second => .call function inner first second none
  | firstOf function unit second => .call function unit inner second none
  | secondOf function unit first => .call function unit first inner none
  | aggregate kind state => .aggregate kind inner none state

/-- What the node is resolved to with a resolved expression in the place of the missing operand. -/
def settle (mode : Mode) (inner : Expr) : Frame → Outcome Expr
  | negate => negation inner
  | leftOf op right => do operation mode op inner (← right.resolve mode) true
  | rightOf op left => do operation mode op (← left.resolve mode) inner true
  | unitOf function first second => do
      call function inner (← first.resolve mode) (← second.resolve mode)
  | firstOf function unit second => do
      call function (← unit.resolve mode) inner (← second.resolve mode)
  | secondOf function unit first => do
      call function (← unit.resolve mode) (← first.resolve mode) inner
  | aggregate kind state => do
      .ok (.aggregate kind inner (some (← kind.outputType inner.type)) state)

variable {mode : Mode} {frame : Frame} {inner result : Expr}

/-- A node is resolved by resolving what is in it and then the node. -/
theorem resolve_plug_eq_ok :
    (frame.plug inner).resolve mode = .ok result ↔
      ∃ resolved, inner.resolve mode = .ok resolved ∧ frame.settle mode resolved = .ok result := by
  cases frame with
  | negate | leftOf _ _ | unitOf _ _ _ => exact bind_eq_ok
  | aggregate _ _ => exact bind_eq_ok
  | rightOf op left =>
      simp only [plug, settle, Expr.operation, Expr.resolve, bind_eq_ok]
      grind
  | firstOf function unit second =>
      simp only [plug, settle, Expr.resolve, bind_eq_ok]
      grind
  | secondOf function unit first =>
      simp only [plug, settle, Expr.resolve, bind_eq_ok]
      grind

theorem yields_plug {context : Context} {value : Value} :
    (frame.plug inner).Yields context value ↔
      ∃ resolved, inner.resolve context.mode = .ok resolved ∧
        valueOf context (frame.settle context.mode resolved) = .ok value := by
  simp only [Expr.Yields, resolve_plug_eq_ok, valueOf, bind_eq_ok]
  grind

/-- An expression with nodes around it, the innermost one first. -/
def surround (inner : Expr) : List Frame → Expr
  | [] => inner
  | frame :: outer => surround (frame.plug inner) outer

/-- Whether every node around an expression meets a condition, with either of two expressions in
the place it has inside of the node. -/
def Throughout (condition : Frame → Expr → Expr → Prop) (inner inner' : Expr) : List Frame → Prop
  | [] => True
  | frame :: outer =>
      condition frame inner inner' ∧
        Throughout condition (frame.plug inner) (frame.plug inner') outer

/-- A relation that every node carries outwards holds between the surrounded expressions. -/
theorem Throughout.carries {condition : Frame → Expr → Expr → Prop}
    {relation : Expr → Expr → Prop}
    (carries : ∀ frame inner inner', condition frame inner inner' → relation inner inner' →
      relation (frame.plug inner) (frame.plug inner'))
    {inner inner' : Expr} {surroundings : List Frame}
    (meets : Throughout condition inner inner' surroundings) (related : relation inner inner') :
    relation (surround inner surroundings) (surround inner' surroundings) := by
  induction surroundings generalizing inner inner' with
  | nil => exact related
  | cons frame outer ih => exact ih meets.2 (carries frame inner inner' meets.1 related)

variable {context : Context}

/-- Whether the node is an aggregate, which does not evaluate what is in it. -/
def isAggregate : Frame → Bool
  | aggregate _ _ => true
  | _ => false

/-- What a node other than an aggregate is resolved to has values of its type. -/
theorem faithful_settle (computed : frame.isAggregate = false)
    (settles : frame.settle mode inner = .ok result) : result.Faithful context := by
  cases frame with
  | negate => exact faithful_negation settles
  | leftOf op right =>
      obtain ⟨_, _, operates⟩ := bind_eq_ok.mp settles
      exact faithful_of_rewrites (operation_rewrites operates) rfl
  | rightOf op left =>
      obtain ⟨_, _, operates⟩ := bind_eq_ok.mp settles
      exact faithful_of_rewrites (operation_rewrites operates) rfl
  | unitOf function _ _ | firstOf function _ _ | secondOf function _ _ =>
      obtain ⟨_, _, rest⟩ := bind_eq_ok.mp settles
      obtain ⟨_, _, calls⟩ := bind_eq_ok.mp rest
      exact faithful_call calls
  | aggregate _ _ => cases computed

/-- A node is not folded around something that is no constant. -/
theorem isConstant_of_settle (varying : inner.isConstant = false)
    (settles : frame.settle mode inner = .ok result) : result.isConstant = false := by
  cases frame with
  | negate => exact isConstant_of_negation varying settles
  | leftOf op right =>
      obtain ⟨_, _, operates⟩ := bind_eq_ok.mp settles
      refine isConstant_of_rewrites (operation_rewrites operates) ?_
      rw [foldable, varying, Bool.false_and]
  | rightOf op left =>
      obtain ⟨_, _, operates⟩ := bind_eq_ok.mp settles
      refine isConstant_of_rewrites (operation_rewrites operates) ?_
      rw [foldable, varying, Bool.and_false]
  | unitOf function _ _ | firstOf function _ _ | secondOf function _ _ =>
      obtain ⟨_, _, rest⟩ := bind_eq_ok.mp settles
      obtain ⟨_, _, calls⟩ := bind_eq_ok.mp rest
      refine isConstant_of_open_call ?_ calls
      simp only [closed, varying, Bool.false_and, Bool.and_false]
  | aggregate kind state =>
      obtain ⟨_, _, settled⟩ := bind_eq_ok.mp settles
      cases settled
      rfl

/-- Whether the node has no value unless what is in it has one. A call whose unit may be `NULL`
does not always look at its other arguments. -/
def Propagates (mode : Mode) : Frame → Prop
  | firstOf _ unit _ | secondOf _ unit _ =>
      ∃ named, unit.resolve mode = .ok (.literal named) ∧ named.isNull = false
  | aggregate _ _ => False
  | _ => True

/-- A node that propagates has a value only if what is in it has. -/
theorem defined_of_settle (propagates : frame.Propagates context.mode)
    (settles : frame.settle context.mode inner = .ok result) (defined : result.Defined context) :
    inner.Defined context := by
  cases frame with
  | negate => exact defined_of_negation settles defined
  | leftOf op right =>
      obtain ⟨_, _, operates⟩ := bind_eq_ok.mp settles
      exact (defined_of_rewrites (operation_rewrites operates) defined).1
  | rightOf op left =>
      obtain ⟨_, _, operates⟩ := bind_eq_ok.mp settles
      exact (defined_of_rewrites (operation_rewrites operates) defined).2
  | unitOf function first second =>
      obtain ⟨first', _, rest⟩ := bind_eq_ok.mp settles
      obtain ⟨second', _, calls⟩ := bind_eq_ok.mp rest
      obtain ⟨known, knownIs, _⟩ := call_eq_ok calls
      obtain ⟨value, evaluates⟩ := defined
      rw [evaluate_of_call knownIs calls] at evaluates
      obtain ⟨named, unitIs, _⟩ := DateFunction.evaluate_eq_ok.mp evaluates
      exact ⟨named, unitIs⟩
  | firstOf function unit second =>
      obtain ⟨named, unitIs, present⟩ := propagates
      obtain ⟨unit', unitIs', rest⟩ := bind_eq_ok.mp settles
      obtain ⟨second', _, calls⟩ := bind_eq_ok.mp rest
      rw [unitIs] at unitIs'
      cases unitIs'
      exact (defined_of_call present calls defined).1
  | secondOf function unit first =>
      obtain ⟨named, unitIs, present⟩ := propagates
      obtain ⟨unit', unitIs', rest⟩ := bind_eq_ok.mp settles
      obtain ⟨first', _, calls⟩ := bind_eq_ok.mp rest
      rw [unitIs] at unitIs'
      cases unitIs'
      exact (defined_of_call present calls defined).2
  | aggregate _ _ => exact propagates.elim

end Frame

end SqlScalar
