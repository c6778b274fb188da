import SqlScalar.Proofs.FreshTrees
import SqlScalar.Proofs.TemporalMatrix

/-! # Repeated resolution

Arithmetic that moves a date or counts the days between two is rewritten to a call of a date
function, which is built around operands that are resolved already and then resolved as a whole.
`ResolvesAfresh` takes this literally and counts the rewritings. What is resolved is not rewritten
again, however often it is gone through. So there is no more than one rewriting for each operation,
and each brings in four nodes on top of the operation at most.
-/

namespace SqlScalar

open Calendar Resolution

namespace Expr

/-- The number of nodes in an expression. -/
def nodes : Expr → Nat
  | literal _ | column _ | parameter _ => 1
  | negate operand _ => operand.nodes + 1
  | binary _ left right _ _ => left.nodes + right.nodes + 1
  | call _ unit first second _ => unit.nodes + first.nodes + second.nodes + 1
  | aggregate _ argument _ _ => argument.nodes + 1

/-- The number of operations on one operand or two in an expression. -/
def operations : Expr → Nat
  | literal _ | column _ | parameter _ => 0
  | negate operand _ => operand.operations + 1
  | binary _ left right _ _ => left.operations + right.operations + 1
  | call _ unit first second _ => unit.operations + first.operations + second.operations
  | aggregate _ argument _ _ => argument.operations

end Expr

namespace Resolution

/-- Whether an operation on operands of two types is rewritten to a call. -/
def becomesCall : BinaryOp → DataType → DataType → Bool
  | .arith .plus, left, right =>
      left.countsDays && right.isTemporal || left.isTemporal && right.countsDays
  | .arith .minus, left, right => left.hasDate && (right.countsDays || right.hasDate)
  | _, _, _ => false

/-- A number of days in the unit in which it moves an instant, not resolved as a whole. -/
def countedDays (days : Expr) : Expr :=
  if days.type = .integer then days else .arith .multiply .daySeconds days

/-- The call that moves an instant by a number of units, days or seconds by the type of the days,
not resolved as a whole. -/
def movingCall (days : DataType) (count moved : Expr) : Expr :=
  .call .dateAdd (.string (dayWord days)) count moved none

/-- The calls that are built at once for operations on resolved operands. -/
inductive BuildsCall : ArithOp → Expr → Expr → Expr → Prop
  | sum {days moved : Expr} (counts : days.type.countsDays = true)
      (isTemporal : moved.type.isTemporal = true) :
      BuildsCall .plus days moved (movingCall days.type (countedDays days) moved)
  | reversedSum {days moved : Expr} (counts : days.type.countsDays = true)
      (isTemporal : moved.type.isTemporal = true) :
      BuildsCall .plus moved days (movingCall days.type (countedDays days) moved)
  | difference {finish start : Expr} (finishDated : finish.type.hasDate = true)
      (startDated : start.type.hasDate = true) :
      BuildsCall .minus finish start (.call .dateDiff (.string "DAY") start finish none)

end Resolution

/-- Resolution that resolves every call it builds as a whole, the resolved operands in it once
more, with the number of times that an operation is rewritten to a call. -/
inductive ResolvesAfresh (mode : Mode) : Expr → Nat → Expr → Prop
  | literal (value : Value) : ResolvesAfresh mode (.literal value) 0 (.literal value)
  | column {reference : ColumnRef} (bound : reference.binding.isSome = true) :
      ResolvesAfresh mode (.column reference) 0 (.column reference)
  | parameter (index : Index) : ResolvesAfresh mode (.parameter index) 0 (.parameter index)
  | negate {operand operand' result : Expr} {resolved : Option DataType} {rewritings : Nat}
      (operandRun : ResolvesAfresh mode operand rewritings operand')
      (negates : negation operand' = .ok result) :
      ResolvesAfresh mode (.negate operand resolved) rewritings result
  | call {function : DateFunction} {unit unit' first first' second second' result : Expr}
      {resolved : Option DataType} {inUnit inFirst inSecond : Nat}
      (unitRun : ResolvesAfresh mode unit inUnit unit')
      (firstRun : ResolvesAfresh mode first inFirst first')
      (secondRun : ResolvesAfresh mode second inSecond second')
      (calls : Resolution.call function unit' first' second' = .ok result) :
      ResolvesAfresh mode (.call function unit first second resolved)
        (inUnit + inFirst + inSecond) result
  | aggregate {kind : AggregateKind} {argument argument' : Expr} {type : DataType}
      {resolved : Option DataType} {state : AggregateState} {rewritings : Nat}
      (argumentRun : ResolvesAfresh mode argument rewritings argument')
      (typed : kind.outputType argument'.type = .ok type) :
      ResolvesAfresh mode (.aggregate kind argument resolved state) rewritings
        (.aggregate kind argument' (some type) state)
  /-- An operation that is not rewritten takes its resolved operands as they are. -/
  | operates {op : BinaryOp} {left left' right right' result : Expr} {resolved : Option DataType}
      {converts : Bool} {inLeft inRight : Nat} (leftRun : ResolvesAfresh mode left inLeft left')
      (rightRun : ResolvesAfresh mode right inRight right')
      (noCall : becomesCall op left'.type right'.type = false)
      (operates : operation mode op left' right' converts = .ok result) :
      ResolvesAfresh mode (.binary op left right resolved converts) (inLeft + inRight) result
  | rewrites {op : ArithOp} {left left' right right' built result : Expr}
      {resolved : Option DataType} {converts : Bool} {inLeft inRight further : Nat}
      (leftRun : ResolvesAfresh mode left inLeft left')
      (rightRun : ResolvesAfresh mode right inRight right')
      (builds : BuildsCall op left' right' built)
      (again : ResolvesAfresh mode built further result) :
      ResolvesAfresh mode (.binary (.arith op) left right resolved converts)
        (inLeft + inRight + further + 1) result
  /-- The negated number of days is resolved on its own before the call is built around it. -/
  | subtracts {left right moved days count result : Expr} {resolved : Option DataType}
      {converts : Bool} {inLeft inRight early late : Nat}
      (leftRun : ResolvesAfresh mode left inLeft moved)
      (rightRun : ResolvesAfresh mode right inRight days) (dated : moved.type.hasDate = true)
      (counts : days.type.countsDays = true)
      (negates : ResolvesAfresh mode (.negated (countedDays days)) early count)
      (again : ResolvesAfresh mode (movingCall days.type count moved) late result) :
      ResolvesAfresh mode (.binary (.arith .minus) left right resolved converts)
        (inLeft + inRight + (early + late) + 1) result

namespace Resolution

variable {mode : Mode} {op : BinaryOp} {left right built result : Expr} {type : DataType}
  {converts : Bool}

theorem becomesCall_plus_comm (left right : DataType) :
    becomesCall (.arith .plus) left right = becomesCall (.arith .plus) right left := by
  cases left <;> cases right <;> rfl

/-- An operation without a temporal reading becomes no call. -/
theorem becomesCall_of_plain {leftType rightType : DataType} (plain : Plain op leftType rightType) :
    becomesCall op leftType rightType = false := by
  rcases plain with rfl | ⟨leftPlain, rightPlain⟩
  · rfl
  · have undated : leftType.hasDate = false := by
      cases leftType <;> first | rfl | cases leftPlain
    cases op with
    | concat => rfl
    | arith op =>
        cases op <;> simp only [becomesCall, leftPlain, rightPlain, undated, Bool.and_false,
          Bool.false_and, Bool.or_self]

/-- A sum or difference that stays an operation becomes no call. -/
theorem becomesCall_of_keeps {op : ArithOp} {leftType rightType : DataType}
    (kept : Keeps op leftType rightType type) :
    becomesCall (.arith op) leftType rightType = false := by
  cases kept with
  | sumOfTimes | differenceOfTimes => rfl
  | anchoredSum ranked other => revert ranked other; cases rightType <;> decide
  | anchoredDifference dated => revert dated; cases leftType <;> decide

theorem becomesCall_of_scaling {op : ArithOp} (scaling : op = .multiply ∨ op = .divide)
    (left right : DataType) : becomesCall (.arith op) left right = false := by
  rcases scaling with rfl | rfl
  · rfl
  · rfl

/-- An operation that stays one when it is resolved again is not rewritten to a call. -/
theorem becomesCall_of_stays (stays : Stays mode op left right type converts) :
    becomesCall op left.type right.type = false := by
  cases stays with
  | plain plain _ _ => exact becomesCall_of_plain plain
  | temporal kept => exact becomesCall_of_keeps kept
  | scaled scaling _ => exact becomesCall_of_scaling scaling _ _

/-- An operation for which a call is built becomes one. -/
theorem becomesCall_of_buildsCall {op : ArithOp} (builds : BuildsCall op left right built) :
    becomesCall (.arith op) left.type right.type = true := by
  cases builds with
  | sum counts isTemporal =>
      simp only [becomesCall, counts, isTemporal, Bool.and_self, Bool.true_or]
  | reversedSum counts isTemporal =>
      simp only [becomesCall, counts, isTemporal, Bool.and_self, Bool.or_true]
  | difference finishDated startDated =>
      simp only [becomesCall, finishDated, startDated, Bool.or_true, Bool.and_self]

theorem not_buildsCall {op : ArithOp}
    (noCall : becomesCall (.arith op) left.type right.type = false) :
    ¬ BuildsCall op left right built := by
  intro builds
  rw [becomesCall_of_buildsCall builds] at noCall
  cases noCall

theorem becomesCall_of_days (dated : left.type.hasDate = true)
    (counts : right.type.countsDays = true) :
    becomesCall (.arith .minus) left.type right.type = true := by
  simp only [becomesCall, dated, counts, Bool.true_or, Bool.and_self]

/-- An operation is rewritten to one call only. -/
theorem BuildsCall.unique {op : ArithOp} {other : Expr} (builds : BuildsCall op left right built)
    (buildsOther : BuildsCall op left right other) : built = other := by
  cases builds with
  | sum counts isTemporal =>
      cases buildsOther with
      | sum _ _ => rfl
      | reversedSum _ leftTemporal =>
          rw [DataType.countsDays_of_isTemporal leftTemporal] at counts
          cases counts
  | reversedSum counts isTemporal =>
      cases buildsOther with
      | sum _ rightTemporal =>
          rw [DataType.countsDays_of_isTemporal rightTemporal] at counts
          cases counts
      | reversedSum _ _ => rfl
  | difference _ _ =>
      cases buildsOther with
      | difference _ _ => rfl

/-- For an instant less a number of days the call is not built at once, but after the days are
negated. -/
theorem not_buildsCall_of_days (counts : right.type.countsDays = true) :
    ¬ BuildsCall .minus left right built := by
  rintro ⟨⟩
  rename_i startDated
  rw [DataType.countsDays_of_hasDate startDated] at counts
  cases counts

/-- An operation that is rewritten is so to a call that is built at once, or is one that subtracts
days. -/
theorem exists_buildsCall_or_days (calls : becomesCall op left.type right.type = true) :
    ∃ arith, op = .arith arith ∧ ((∃ built, BuildsCall arith left right built) ∨
      arith = .minus ∧ left.type.hasDate = true ∧ right.type.countsDays = true) := by
  unfold becomesCall at calls
  split at calls
  · refine ⟨.plus, rfl, .inl ?_⟩
    rcases Bool.or_eq_true_iff.mp calls with ordered | reversed
    · obtain ⟨counts, isTemporal⟩ := Bool.and_eq_true_iff.mp ordered
      exact ⟨_, .sum counts isTemporal⟩
    · obtain ⟨isTemporal, counts⟩ := Bool.and_eq_true_iff.mp reversed
      exact ⟨_, .reversedSum counts isTemporal⟩
  · obtain ⟨dated, calls⟩ := Bool.and_eq_true_iff.mp calls
    refine ⟨.minus, rfl, ?_⟩
    rcases Bool.or_eq_true_iff.mp calls with counts | rightDated
    · exact .inr ⟨rfl, dated, counts⟩
    · exact .inl ⟨_, .difference dated rightDated⟩
  · cases calls

section Rebuilt

/-- A sum of days and an instant is the call that moves the instant, resolved as a whole. -/
theorem rebuiltSum_of_days (counts : left.type.countsDays = true) :
    rebuiltSum mode left right converts =
      (movingCall left.type (countedDays left) right).resolve mode := by
  unfold rebuiltSum movingCall countedDays dayWord
  by_cases whole : left.type = .integer
  · simp only [if_pos whole]
  · have fraction := (DataType.countsDays_iff.mp counts).resolve_left whole
    simp only [if_neg whole, if_pos fraction]

variable (leftResolved : Resolved mode left) (rightResolved : Resolved mode right)

include leftResolved rightResolved

/-- An operation for which a call is built is that call, resolved as a whole. -/
theorem operation_of_buildsCall {op : ArithOp} (builds : BuildsCall op left right built)
    (converts : Bool) : operation mode (.arith op) left right converts = built.resolve mode := by
  cases builds with
  | sum counts isTemporal =>
      have ordered : DataType.preferred left.type right.type = right.type := by
        revert counts isTemporal
        cases left.type <;> cases right.type <;> decide
      rw [operation_eq_rebuilt leftResolved rightResolved]
      simp only [rebuilt, isTemporal, Bool.or_true, ordered, ↓reduceIte]
      exact rebuiltSum_of_days counts
  | reversedSum counts isTemporal =>
      have reversed : DataType.preferred left.type right.type ≠ right.type := by
        revert counts isTemporal
        cases left.type <;> cases right.type <;> decide
      rw [operation_eq_rebuilt leftResolved rightResolved]
      simp only [rebuilt, isTemporal, Bool.true_or, reversed, ↓reduceIte]
      exact rebuiltSum_of_days counts
  | difference finishDated startDated =>
      rw [operation_daysBetween finishDated startDated]
      exact (resolve_call_of_resolved rightResolved leftResolved).symm

/-- An instant less a number of days is the call that moves it by the days negated, each resolved
as a whole. -/
theorem operation_of_days (dated : left.type.hasDate = true)
    (counts : right.type.countsDays = true) (converts : Bool) :
    operation mode (.arith .minus) left right converts =
      ((Expr.negated (countedDays right)).resolve mode >>= fun count =>
        (movingCall right.type count left).resolve mode) := by
  rw [operation_eq_rebuilt leftResolved rightResolved]
  simp only [rebuilt, DataType.isTemporal_of_hasDate dated, Bool.true_or, ↓reduceIte,
    rebuiltDifference, dated]
  unfold movingCall countedDays dayWord
  by_cases whole : right.type = .integer
  · simp only [if_pos whole]
  · have fraction := (DataType.countsDays_iff.mp counts).resolve_left whole
    simp only [if_neg whole, if_pos fraction]

end Rebuilt

section Nodes

theorem nodes_negation_le {operand : Expr} (negates : negation operand = .ok result) :
    result.nodes ≤ operand.nodes + 1 := by
  rcases negation_eq_ok negates with ⟨_, _, _, _, rfl⟩ | ⟨_, rfl⟩
  · exact Nat.le_add_left _ _
  · exact Nat.le_refl _

theorem nodes_call_le {function : DateFunction} {unit first second : Expr}
    (calls : Resolution.call function unit first second = .ok result) :
    result.nodes ≤ unit.nodes + first.nodes + second.nodes + 1 := by
  obtain ⟨_, _, ⟨_, _, _, _, _, _, _, _, rfl⟩ | ⟨_, rfl⟩⟩ := call_eq_ok calls
  · exact Nat.le_add_left _ _
  · exact Nat.le_refl _

/-- An operation that is not rewritten keeps its node, in whatever order it takes its operands, or
is folded. -/
theorem nodes_rewrites_le (noCall : becomesCall op left.type right.type = false)
    (rewrites : Rewrites mode op left right converts result) :
    result.nodes ≤ left.nodes + right.nodes + 1 := by
  induction rewrites with
  | folds => exact Nat.le_add_left _ _
  | settles | keeps | scales => exact Nat.le_refl _
  | @swaps op left right _ _ reversed _ ih =>
      have swapped : becomesCall (.arith op) right.type left.type = false := by
        rcases reversed with ⟨rfl, _⟩ | ⟨rfl, _⟩
        · rw [becomesCall_plus_comm]
          exact noCall
        · rfl
      have counted := ih swapped
      omega
  | addsDays days isTemporal _ =>
      have counts := DataType.countsDays_iff.mpr (.inl days)
      exact absurd (.sum counts isTemporal) (not_buildsCall noCall)
  | addsSeconds fraction isTemporal _ _ =>
      have counts := DataType.countsDays_iff.mpr (.inr fraction)
      exact absurd (.sum counts isTemporal) (not_buildsCall noCall)
  | subtractsDays dated whole _ _ =>
      rw [becomesCall_of_days dated (DataType.countsDays_iff.mpr (.inl whole))] at noCall
      cases noCall
  | subtractsSeconds dated fraction _ _ _ =>
      rw [becomesCall_of_days dated (DataType.countsDays_iff.mpr (.inr fraction))] at noCall
      cases noCall
  | countsDays leftDated rightDated _ =>
      exact absurd (.difference leftDated rightDated) (not_buildsCall noCall)

theorem nodes_countedDays_le (days : Expr) : (countedDays days).nodes ≤ days.nodes + 2 := by
  unfold countedDays
  split
  · exact Nat.le_add_right _ _
  · change 1 + days.nodes + 1 ≤ days.nodes + 2
    omega

/-- A call that is built for an operation has four nodes more than the operands at most. -/
theorem nodes_buildsCall_le {op : ArithOp} (builds : BuildsCall op left right built) :
    built.nodes ≤ left.nodes + right.nodes + 4 := by
  cases builds with
  | sum _ _ =>
      have counted := nodes_countedDays_le left
      change 1 + (countedDays left).nodes + right.nodes + 1 ≤ _
      omega
  | reversedSum _ _ =>
      have counted := nodes_countedDays_le right
      change 1 + (countedDays right).nodes + left.nodes + 1 ≤ _
      omega
  | difference _ _ =>
      change 1 + right.nodes + left.nodes + 1 ≤ _
      omega

end Nodes

end Resolution

namespace ResolvesAfresh

variable {mode : Mode} {expr result : Expr} {rewritings : Nat}

/-- What is resolved can be gone through once more, and nothing is rewritten then. -/
theorem of_resolved (resolved : Resolved mode expr) : ResolvesAfresh mode expr 0 expr := by
  induction resolved with
  | literal value => exact .literal value
  | column bound => exact .column bound
  | parameter index => exact .parameter index
  | negate _ varying ih => exact .negate ih (negation_of_varying varying)
  | binary _ _ stays leftIH rightIH =>
      exact .operates leftIH rightIH (becomesCall_of_stays stays) (operation_of_stays stays)
  | call _ _ _ knownIs varying unitIH firstIH secondIH =>
      exact .call unitIH firstIH secondIH (call_of_not_closed knownIs varying)
  | aggregate _ typed ih => exact .aggregate ih typed

/-- Resolving the calls that are built as a whole ends where resolution does that takes the
operands in them as they are. -/
theorem resolve_eq (run : ResolvesAfresh mode expr rewritings result) :
    expr.resolve mode = .ok result := by
  induction run with
  | literal _ | parameter _ => rfl
  | column bound => simp only [Expr.resolve, bound, ↓reduceIte]
  | negate _ negates ih =>
      simp only [Expr.resolve, ih]
      exact negates
  | call _ _ _ calls unitIH firstIH secondIH =>
      simp only [Expr.resolve, unitIH, firstIH, secondIH]
      exact calls
  | @aggregate kind _ _ _ _ _ _ _ typed ih =>
      simp only [Expr.resolve, ih]
      change (kind.outputType _ >>= _) = _
      rw [typed]
      rfl
  | operates _ _ _ operates leftIH rightIH =>
      simp only [Expr.resolve, leftIH, rightIH]
      exact operates
  | rewrites _ _ builds _ leftIH rightIH againIH =>
      simp only [Expr.resolve, leftIH, rightIH]
      refine (operation_of_buildsCall ?_ ?_ builds _).trans againIH
      · exact .of_resolve leftIH
      · exact .of_resolve rightIH
  | subtracts _ _ dated counts _ _ leftIH rightIH negatesIH againIH =>
      simp only [Expr.resolve, leftIH, rightIH]
      refine (operation_of_days ?_ ?_ dated counts _).trans ?_
      · exact .of_resolve leftIH
      · exact .of_resolve rightIH
      · rw [negatesIH]
        exact againIH

theorem result_unique {other : Nat} {outcome : Expr}
    (run : ResolvesAfresh mode expr rewritings result)
    (runOther : ResolvesAfresh mode expr other outcome) : outcome = result :=
  Except.ok.inj (runOther.resolve_eq.symm.trans run.resolve_eq)

/-- Two runs rewrite as often, since they go through the same operands. -/
theorem rewritings_unique {other : Nat} {outcome : Expr}
    (run : ResolvesAfresh mode expr rewritings result)
    (runOther : ResolvesAfresh mode expr other outcome) : other = rewritings := by
  induction run generalizing other outcome with
  | literal _ | column _ | parameter _ => cases runOther; rfl
  | negate _ _ ih =>
      cases runOther with
      | negate operandRun _ => exact ih operandRun
  | call _ _ _ _ unitIH firstIH secondIH =>
      cases runOther with
      | call unitRun firstRun secondRun _ =>
          rw [unitIH unitRun, firstIH firstRun, secondIH secondRun]
  | aggregate _ _ ih =>
      cases runOther with
      | aggregate argumentRun _ => exact ih argumentRun
  | operates leftRun rightRun noCall _ leftIH rightIH =>
      cases runOther with
      | operates leftOther rightOther _ _ => rw [leftIH leftOther, rightIH rightOther]
      | rewrites leftOther rightOther builds _ =>
          have calls := becomesCall_of_buildsCall builds
          rw [leftRun.result_unique leftOther, rightRun.result_unique rightOther, noCall] at calls
          cases calls
      | subtracts leftOther rightOther dated counts _ _ =>
          have calls := becomesCall_of_days dated counts
          rw [leftRun.result_unique leftOther, rightRun.result_unique rightOther, noCall] at calls
          cases calls
  | rewrites leftRun rightRun builds _ leftIH rightIH againIH =>
      have calls := becomesCall_of_buildsCall builds
      cases runOther with
      | operates leftOther rightOther noCall _ =>
          rw [leftRun.result_unique leftOther, rightRun.result_unique rightOther, calls] at noCall
          cases noCall
      | rewrites leftOther rightOther buildsOther againOther =>
          cases leftRun.result_unique leftOther
          cases rightRun.result_unique rightOther
          cases builds.unique buildsOther
          rw [leftIH leftOther, rightIH rightOther, againIH againOther]
      | subtracts leftOther rightOther _ counts _ _ =>
          cases leftRun.result_unique leftOther
          cases rightRun.result_unique rightOther
          exact absurd builds (not_buildsCall_of_days counts)
  | subtracts leftRun rightRun dated counts negates _ leftIH rightIH negatesIH againIH =>
      have calls := becomesCall_of_days dated counts
      cases runOther with
      | operates leftOther rightOther noCall _ =>
          rw [leftRun.result_unique leftOther, rightRun.result_unique rightOther, calls] at noCall
          cases noCall
      | rewrites leftOther rightOther buildsOther _ =>
          cases leftRun.result_unique leftOther
          cases rightRun.result_unique rightOther
          exact absurd buildsOther (not_buildsCall_of_days counts)
      | subtracts leftOther rightOther _ _ negatesOther againOther =>
          cases leftRun.result_unique leftOther
          cases rightRun.result_unique rightOther
          cases negates.result_unique negatesOther
          rw [leftIH leftOther, rightIH rightOther, negatesIH negatesOther, againIH againOther]

/-- An expression is resolved in one way only, with one number of rewritings. -/
theorem iff_of_run (run : ResolvesAfresh mode expr rewritings result) (other : Nat)
    (outcome : Expr) :
    ResolvesAfresh mode expr other outcome ↔ other = rewritings ∧ outcome = result := by
  constructor
  · intro runOther
    exact ⟨run.rewritings_unique runOther, run.result_unique runOther⟩
  · rintro ⟨rfl, rfl⟩
    exact run

section Built

variable {days moved units : Expr}

/-- Counting resolved days rewrites nothing. -/
theorem of_countedDays (daysResolved : Resolved mode days)
    (resolves : (countedDays days).resolve mode = .ok units) :
    ResolvesAfresh mode (countedDays days) 0 units := by
  unfold countedDays at resolves ⊢
  by_cases whole : days.type = .integer
  · rw [if_pos whole] at resolves ⊢
    rw [daysResolved.resolve_eq] at resolves
    cases resolves
    exact of_resolved daysResolved
  · rw [if_neg whole] at resolves ⊢
    change (days.resolve mode >>= fun days =>
      operation mode (.arith .multiply) .daySeconds days true) = _ at resolves
    rw [daysResolved.resolve_eq] at resolves
    exact .operates (.literal _) (of_resolved daysResolved) rfl resolves

/-- A call that is built around resolved arguments is resolved without another rewriting. -/
theorem of_call {function : DateFunction} {named : Value} {first first' second : Expr}
    (firstRun : ResolvesAfresh mode first 0 first') (secondResolved : Resolved mode second)
    (resolves : (Expr.call function (.literal named) first second none).resolve mode =
      .ok result) :
    ResolvesAfresh mode (.call function (.literal named) first second none) 0 result := by
  change (first.resolve mode >>= fun first => second.resolve mode >>= fun second =>
    Resolution.call function (.literal named) first second) = _ at resolves
  rw [firstRun.resolve_eq, secondResolved.resolve_eq] at resolves
  exact .call (.literal named) firstRun (of_resolved secondResolved) resolves

/-- The call that moves an instant is resolved once more without rewriting anything in it. -/
theorem of_movingCall (daysResolved : Resolved mode days) (movedResolved : Resolved mode moved)
    (resolves : (movingCall days.type (countedDays days) moved).resolve mode = .ok result) :
    ResolvesAfresh mode (movingCall days.type (countedDays days) moved) 0 result := by
  obtain ⟨_, _, rest⟩ := bind_eq_ok.mp resolves
  obtain ⟨units, counts, _⟩ := bind_eq_ok.mp rest
  exact of_call (of_countedDays daysResolved counts) movedResolved resolves

/-- A call that is built for an operation is resolved once more without rewriting anything in it. -/
theorem of_buildsCall {op : ArithOp} {left right built : Expr}
    (builds : BuildsCall op left right built) (leftResolved : Resolved mode left)
    (rightResolved : Resolved mode right) (resolves : built.resolve mode = .ok result) :
    ResolvesAfresh mode built 0 result := by
  cases builds with
  | sum _ _ => exact of_movingCall leftResolved rightResolved resolves
  | reversedSum _ _ => exact of_movingCall rightResolved leftResolved resolves
  | difference _ _ => exact of_call (of_resolved rightResolved) leftResolved resolves

/-- Days that are negated are resolved once more without rewriting anything in them. -/
theorem of_negatedDays (daysResolved : Resolved mode days)
    (resolves : (Expr.negated (countedDays days)).resolve mode = .ok units) :
    ResolvesAfresh mode (.negated (countedDays days)) 0 units := by
  obtain ⟨counted, counts, negates⟩ := bind_eq_ok.mp resolves
  exact .negate (of_countedDays daysResolved counts) negates

end Built

/-- Resolution rewrites each operation once at most. -/
theorem exists_of_resolve (resolves : expr.resolve mode = .ok result) :
    ∃ rewritings ≤ expr.operations, ResolvesAfresh mode expr rewritings result := by
  induction expr generalizing result with
  | literal value =>
      cases resolves
      exact ⟨0, Nat.le_refl _, .literal value⟩
  | column reference =>
      simp only [Expr.resolve] at resolves
      split at resolves
      · rename_i bound
        cases resolves
        exact ⟨0, Nat.le_refl _, .column bound⟩
      · cases resolves
  | parameter index =>
      cases resolves
      exact ⟨0, Nat.le_refl _, .parameter index⟩
  | negate operand _ ih =>
      obtain ⟨operand', operandIs, negates⟩ := bind_eq_ok.mp resolves
      obtain ⟨rewritings, few, run⟩ := ih operandIs
      exact ⟨rewritings, Nat.le_succ_of_le few, .negate run negates⟩
  | binary op left right _ converts leftIH rightIH =>
      obtain ⟨left', leftIs, rest⟩ := bind_eq_ok.mp resolves
      obtain ⟨right', rightIs, operates⟩ := bind_eq_ok.mp rest
      obtain ⟨inLeft, fewLeft, leftRun⟩ := leftIH leftIs
      obtain ⟨inRight, fewRight, rightRun⟩ := rightIH rightIs
      have leftResolved : Resolved mode left' := .of_resolve leftIs
      have rightResolved : Resolved mode right' := .of_resolve rightIs
      have few : inLeft + inRight + 0 + 1 ≤ left.operations + right.operations + 1 := by omega
      cases calls : becomesCall op left'.type right'.type with
      | false => exact ⟨_, Nat.le_of_succ_le few, .operates leftRun rightRun calls operates⟩
      | true =>
          obtain ⟨op, rfl, ⟨built, builds⟩ | ⟨rfl, dated, counts⟩⟩ :=
            exists_buildsCall_or_days calls
          · rw [operation_of_buildsCall leftResolved rightResolved builds] at operates
            have again := of_buildsCall builds leftResolved rightResolved operates
            exact ⟨_, few, .rewrites leftRun rightRun builds again⟩
          · rw [operation_of_days leftResolved rightResolved dated counts] at operates
            obtain ⟨count, negates, operates⟩ := bind_eq_ok.mp operates
            have negated := of_negatedDays rightResolved negates
            have again := of_call (of_resolved (.of_resolve negates)) leftResolved operates
            exact ⟨_, few, .subtracts leftRun rightRun dated counts negated again⟩
  | call function unit first second _ unitIH firstIH secondIH =>
      obtain ⟨unit', unitIs, rest⟩ := bind_eq_ok.mp resolves
      obtain ⟨first', firstIs, rest⟩ := bind_eq_ok.mp rest
      obtain ⟨second', secondIs, calls⟩ := bind_eq_ok.mp rest
      obtain ⟨inUnit, fewUnit, unitRun⟩ := unitIH unitIs
      obtain ⟨inFirst, fewFirst, firstRun⟩ := firstIH firstIs
      obtain ⟨inSecond, fewSecond, secondRun⟩ := secondIH secondIs
      have few := Nat.add_le_add (Nat.add_le_add fewUnit fewFirst) fewSecond
      exact ⟨_, few, .call unitRun firstRun secondRun calls⟩
  | aggregate kind argument _ state ih =>
      obtain ⟨argument', argumentIs, rest⟩ := bind_eq_ok.mp resolves
      obtain ⟨type, typed, stays⟩ := bind_eq_ok.mp rest
      obtain ⟨rewritings, few, run⟩ := ih argumentIs
      cases stays
      exact ⟨rewritings, few, .aggregate run typed⟩

/-- Every rewriting brings in four nodes on top of the operation at most. -/
theorem nodes_le (run : ResolvesAfresh mode expr rewritings result) :
    result.nodes ≤ expr.nodes + 4 * rewritings := by
  induction run with
  | literal _ | column _ | parameter _ => exact Nat.le_refl _
  | negate _ negates ih =>
      have counted := nodes_negation_le negates
      simp only [Expr.nodes]
      omega
  | call _ _ _ calls unitIH firstIH secondIH =>
      have counted := nodes_call_le calls
      simp only [Expr.nodes]
      omega
  | aggregate _ _ ih =>
      simp only [Expr.nodes]
      omega
  | operates _ _ noCall operates leftIH rightIH =>
      have counted := nodes_rewrites_le noCall (operation_rewrites operates)
      simp only [Expr.nodes]
      omega
  | rewrites _ _ builds _ leftIH rightIH againIH =>
      have counted := nodes_buildsCall_le builds
      simp only [Expr.nodes]
      omega
  | @subtracts left right moved days count _ _ _ _ _ _ _ _ _ _ _ _ _ leftIH rightIH negatesIH
      againIH =>
      have counted := nodes_countedDays_le days
      change _ ≤ (countedDays days).nodes + 1 + _ at negatesIH
      change _ ≤ 1 + count.nodes + moved.nodes + 1 + _ at againIH
      simp only [Expr.nodes]
      omega

end ResolvesAfresh

/-- A resolved expression has at most four nodes more for each operation of the expression it comes
from. However often resolved operands are resolved in the calls that are built around them, no more
rewritings come of it than there are operations, and none if the whole is resolved once more. -/
theorem nodes_of_resolve {mode : Mode} {expr result : Expr}
    (resolves : expr.resolve mode = .ok result) :
    result.nodes ≤ expr.nodes + 4 * expr.operations ∧
    ∃ rewritings ≤ expr.operations, result.nodes ≤ expr.nodes + 4 * rewritings ∧
      (∀ other outcome,
        ResolvesAfresh mode expr other outcome ↔ other = rewritings ∧ outcome = result) ∧
      ∀ other outcome,
        ResolvesAfresh mode result other outcome ↔ other = 0 ∧ outcome = result := by
  obtain ⟨rewritings, few, run⟩ := ResolvesAfresh.exists_of_resolve resolves
  have bounded := run.nodes_le
  have again : ResolvesAfresh mode result 0 result := .of_resolved (.of_resolve resolves)
  exact ⟨by omega, rewritings, few, bounded, run.iff_of_run, again.iff_of_run⟩

/-- Where two numbers of days are taken off a date one after the other, the bound is attained. -/
theorem nodes_of_date_moved_twice :
    let day : Expr := .column ⟨none, "D", some ⟨"T", ⟨0, .date⟩, 0⟩, true⟩
    let share : Expr := .column ⟨none, "N", some ⟨"T", ⟨1, .decimal⟩, 0⟩, false⟩
    let expr := Expr.arith .minus (.arith .minus day share) share
    let scaled := Expr.binary (.arith .multiply) .daySeconds share (some .decimal) true
    let moved (start : Expr) := Expr.call .dateAdd (.string "SECOND")
      (.negate scaled (some .decimal)) start (some .timestamp)
    let result := moved (moved day)
    expr.resolve .regular = .ok result ∧ result.nodes = 13 ∧
      result.nodes ≤ expr.nodes + 4 * expr.operations ∧ ResolvesAfresh .regular expr 2 result ∧
      ResolvesAfresh .regular result 0 result := by
  intro day share expr scaled moved result
  have resolves : expr.resolve .regular = .ok result := rfl
  obtain ⟨bounded, rewritings, few, attained, runs, again⟩ := nodes_of_resolve resolves
  change rewritings ≤ 2 at few
  change 13 ≤ 5 + 4 * rewritings at attained
  refine ⟨resolves, rfl, bounded, (runs 2 _).mpr ⟨?_, rfl⟩, (again 0 _).mpr ⟨rfl, rfl⟩⟩
  omega

end SqlScalar
