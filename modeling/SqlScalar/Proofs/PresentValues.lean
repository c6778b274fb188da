import SqlScalar.Proofs.NodeValues

/-! # Values other than `NULL`

An operation or a call on operands that evaluate to values of their types, and not to `NULL`,
evaluates to such a value itself. It has no value if an operand has none.
-/

namespace SqlScalar

open Calendar

namespace Expr

/-- An expression whose value, if it has one, is a value of its type and not `NULL`. -/
def Exact (context : Context) (expr : Expr) : Prop :=
  ∀ value, expr.evaluate context = .ok value → value.isNull = false ∧ value.type = expr.type

/-- An expression that has a value. -/
def Defined (context : Context) (expr : Expr) : Prop :=
  ∃ value, expr.evaluate context = .ok value

end Expr

namespace Resolution

variable {context : Context} {op : BinaryOp} {left right operand result : Expr}
  {converts : Bool} {type : DataType} {function : DateFunction} {named : Value}
  {first second : Expr}

section Exact

theorem exact_literal {value : Value} (present : value.isNull = false) :
    (Expr.literal value).Exact context := by
  rintro _ same
  cases same
  exact ⟨present, rfl⟩

/-- A column that holds a value of its type is exact. -/
theorem exact_column {reference : ColumnRef} {value : Value}
    (holds : reference.evaluate context.row = .ok value) (present : value.isNull = false)
    (typed : value.type = reference.type) : (Expr.column reference).Exact context := by
  intro other otherIs
  change reference.evaluate context.row = .ok other at otherIs
  rw [holds] at otherIs
  cases otherIs
  exact ⟨present, typed⟩

/-- A node that was folded has the type of its value anyway. -/
theorem exact_value {value : Value} (typed : type.isUntyped = false)
    (node : result.isConstant = true ∨ result.type = type)
    (evaluates : result.evaluate context = .ok value) (valueType : value.type = type) :
    value.isNull = false ∧ value.type = result.type := by
  constructor
  · refine Value.isNull_eq_false_of_typed ?_
    rw [valueType]
    exact typed
  · rcases node with constant | nodeType
    · obtain ⟨_, rfl⟩ := Expr.eq_literal_of_isConstant constant
      cases evaluates
      rfl
    · exact valueType.trans nodeType.symm

/-- An operation on exact operands has values of its type. -/
theorem type_of_evaluate {value : Value} (leftExact : left.Exact context)
    (rightExact : right.Exact context) (typed : type.isUntyped = false)
    (concatenable : op = .concat → type = .varchar)
    (evaluates : op.evaluate context.mode type converts (left.evaluate context)
      (right.evaluate context) = .ok value) : value.type = type := by
  obtain ⟨a, _, b, _, leftIs, _, rightIs, _⟩ := BinaryOp.evaluate_eq_ok.mp evaluates
  have leftPresent := (leftExact a leftIs).1
  have rightPresent := (rightExact b rightIs).1
  exact BinaryOp.evaluate_type_of_present leftIs rightIs leftPresent rightPresent typed
    concatenable evaluates

theorem exact_binary (leftExact : left.Exact context) (rightExact : right.Exact context)
    (typed : type.isUntyped = false) (concatenable : op = .concat → type = .varchar) :
    (Expr.binary op left right (some type) converts).Exact context := by
  intro value evaluates
  have valueType := type_of_evaluate leftExact rightExact typed concatenable evaluates
  exact exact_value typed (.inr rfl) evaluates valueType

/-- What an operation on exact operands is folded to or kept as is exact. -/
theorem exact_fold (leftExact : left.Exact context) (rightExact : right.Exact context)
    (typed : type.isUntyped = false) (concatenable : op = .concat → type = .varchar)
    (folds : fold context.mode op left right type converts = .ok result) :
    result.Exact context := by
  have node : result.isConstant = true ∨ result.type = type := by
    rcases fold_eq_ok folds with ⟨_, _, _, _, _, _, rfl⟩ | ⟨_, rfl⟩
    · exact .inl rfl
    · exact .inr rfl
  intro value evaluates
  have combines := evaluates
  rw [evaluate_of_fold folds] at combines
  have valueType := type_of_evaluate leftExact rightExact typed concatenable combines
  exact exact_value typed node evaluates valueType

/-- A negation has the type of its operand, if that says something about its values. -/
theorem negationType_of_typed (typed : type.isUntyped = false) : negationType type = type := by
  cases type <;> first | rfl | cases typed

/-- What the negation of an exact operand is resolved to is exact. -/
theorem exact_negation (operandExact : operand.Exact context)
    (resolves : negation operand = .ok result) : result.Exact context := by
  intro value evaluates
  have negates := evaluates
  rw [evaluate_of_negation resolves] at negates
  obtain ⟨a, _, operandIs, _⟩ := evaluateNegation_eq_ok.mp negates
  obtain ⟨present, operandType⟩ := operandExact a operandIs
  have typed : operand.type.isUntyped = false := by
    rw [← operandType]
    exact Value.isUntyped_type present
  have node : result.isConstant = true ∨ result.type = operand.type := by
    rcases negation_eq_ok resolves with ⟨_, _, _, _, rfl⟩ | ⟨_, rfl⟩
    · exact .inl rfl
    · exact .inr (negationType_of_typed typed)
  rw [negationType_of_typed typed] at negates
  have valueType := evaluateNegation_type_of_present operandIs present typed negates
  exact exact_value typed node evaluates valueType

/-- What a call on exact arguments is resolved to is exact. -/
theorem exact_call (present : named.isNull = false) (firstExact : first.Exact context)
    (secondExact : second.Exact context)
    (resolves : call function (.literal named) first second = .ok result) :
    result.Exact context := by
  obtain ⟨known, knownIs, shape⟩ := call_eq_ok resolves
  have node : result.isConstant = true ∨ result.type = callType function known second.type := by
    rcases shape with ⟨_, _, _, _, _, _, _, _, rfl⟩ | ⟨_, rfl⟩
    · exact .inl rfl
    · exact .inr rfl
  have admits := admits_callType function known second.type
  intro value evaluates
  have moves := evaluates
  rw [evaluate_of_call knownIs resolves] at moves
  obtain ⟨a, b, firstIs, secondIs⟩ := DateFunction.arguments_of_evaluate present moves
  have valueType := DateFunction.evaluate_type_of_present present firstIs secondIs
    (firstExact a firstIs).1 (secondExact b secondIs).1 admits moves
  exact exact_value admits.typed node evaluates valueType

/-- The seconds in an exact number of days are exact. -/
theorem exact_daySeconds {days : Expr} (daysExact : days.Exact context)
    (fraction : days.type.isFractional = true)
    (scaled : numeric context.mode .multiply .daySeconds days true = .ok result) :
    result.Exact context := by
  rw [numeric_daySeconds fraction, operation_of_plain (plain_daySeconds fraction)] at scaled
  obtain ⟨⟨settled, type⟩, planned, folds⟩ := bind_eq_ok.mp scaled
  obtain ⟨typed, concatenable⟩ := plan_typed planned
  exact exact_fold (exact_literal rfl) daysExact typed concatenable folds

/-- Whatever an operation on exact operands becomes is exact. -/
theorem exact_of_rewrites (rewrites : Rewrites context.mode op left right converts result)
    (leftExact : left.Exact context) (rightExact : right.Exact context) :
    result.Exact context := by
  induction rewrites with
  | folds _ planned evaluates =>
      obtain ⟨typed, concatenable⟩ := plan_typed planned
      have valueType := type_of_evaluate leftExact rightExact typed concatenable evaluates
      refine exact_literal (Value.isNull_eq_false_of_typed ?_)
      rw [valueType]
      exact typed
  | settles _ planned _ =>
      obtain ⟨typed, concatenable⟩ := plan_typed planned
      exact exact_binary leftExact rightExact typed concatenable
  | keeps kept =>
      refine exact_binary leftExact rightExact ?_ nofun
      rcases kept.type_eq with rfl | rfl <;> rfl
  | scales => exact exact_binary leftExact rightExact rfl nofun
  | swaps _ _ ih => exact ih rightExact leftExact
  | addsDays _ _ calls => exact exact_call rfl leftExact rightExact calls
  | addsSeconds fraction _ scaled calls =>
      exact exact_call rfl (exact_daySeconds leftExact fraction scaled) rightExact calls
  | subtractsDays _ _ negated calls =>
      exact exact_call rfl (exact_negation rightExact negated) leftExact calls
  | subtractsSeconds _ fraction scales negated calls =>
      have scaledExact := exact_daySeconds rightExact fraction scales
      exact exact_call rfl (exact_negation scaledExact negated) leftExact calls
  | countsDays _ _ calls => exact exact_call rfl rightExact leftExact calls

end Exact

section Defined

theorem defined_of_binary
    (defined : (Expr.binary op left right (some type) converts).Defined context) :
    left.Defined context ∧ right.Defined context := by
  obtain ⟨value, evaluates⟩ := defined
  obtain ⟨a, _, b, _, leftIs, _, rightIs, _⟩ := BinaryOp.evaluate_eq_ok.mp evaluates
  exact ⟨⟨a, leftIs⟩, ⟨b, rightIs⟩⟩

theorem defined_of_negation (resolves : negation operand = .ok result)
    (defined : result.Defined context) : operand.Defined context := by
  obtain ⟨value, evaluates⟩ := defined
  rw [evaluate_of_negation resolves] at evaluates
  obtain ⟨a, _, operandIs, _⟩ := evaluateNegation_eq_ok.mp evaluates
  exact ⟨a, operandIs⟩

/-- A call in a constant unit has a value only if both other arguments have. -/
theorem defined_of_call (present : named.isNull = false)
    (resolves : call function (.literal named) first second = .ok result)
    (defined : result.Defined context) : first.Defined context ∧ second.Defined context := by
  obtain ⟨known, knownIs, _⟩ := call_eq_ok resolves
  obtain ⟨value, evaluates⟩ := defined
  rw [evaluate_of_call knownIs resolves] at evaluates
  obtain ⟨a, b, firstIs, secondIs⟩ := DateFunction.arguments_of_evaluate present evaluates
  exact ⟨⟨a, firstIs⟩, ⟨b, secondIs⟩⟩

theorem defined_of_daySeconds {days : Expr} (fraction : days.type.isFractional = true)
    (scaled : numeric context.mode .multiply .daySeconds days true = .ok result)
    (defined : result.Defined context) : days.Defined context := by
  obtain ⟨settled, type, _, ⟨b, _, rfl, _⟩ | ⟨_, rfl⟩⟩ := daySeconds_eq_ok fraction scaled
  · exact ⟨b, rfl⟩
  · exact (defined_of_binary defined).2

/-- What an operation becomes has a value only if both operands have one. -/
theorem defined_of_rewrites (rewrites : Rewrites context.mode op left right converts result)
    (defined : result.Defined context) : left.Defined context ∧ right.Defined context := by
  induction rewrites with
  | @folds _ _ a b => exact ⟨⟨a, rfl⟩, ⟨b, rfl⟩⟩
  | settles | keeps | scales => exact defined_of_binary defined
  | swaps _ _ ih => exact (ih defined).symm
  | addsDays _ _ calls => exact defined_of_call rfl calls defined
  | addsSeconds fraction _ scaled calls =>
      obtain ⟨secondsDefined, rightDefined⟩ := defined_of_call rfl calls defined
      exact ⟨defined_of_daySeconds fraction scaled secondsDefined, rightDefined⟩
  | subtractsDays _ _ negated calls =>
      obtain ⟨daysDefined, leftDefined⟩ := defined_of_call rfl calls defined
      exact ⟨leftDefined, defined_of_negation negated daysDefined⟩
  | subtractsSeconds _ fraction scales negated calls =>
      obtain ⟨secondsDefined, leftDefined⟩ := defined_of_call rfl calls defined
      have scaledDefined := defined_of_negation negated secondsDefined
      exact ⟨leftDefined, defined_of_daySeconds fraction scales scaledDefined⟩
  | countsDays _ _ calls => exact (defined_of_call rfl calls defined).symm

end Defined

end Resolution

end SqlScalar
