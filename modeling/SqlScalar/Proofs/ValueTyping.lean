import SqlScalar.Proofs.Outcome
import SqlScalar.Expr.Resolution
import SqlScalar.Value.Arithmetic

/-! # Types of computed values

A conversion ends in a value of the target type or in `NULL`, and arithmetic in a value of
the type of the left operand. Neither ends in a failure other than one about values.
-/

namespace SqlScalar

open Calendar

namespace Value

/-- A value of a type that says anything about it is not `NULL`. -/
theorem isNull_eq_false_of_typed {value : Value} (typed : value.type.isUntyped = false) :
    value.isNull = false := by
  cases value <;> first | rfl | cases typed

/-- A value other than `NULL` has a type that says something about it. -/
theorem isUntyped_type {value : Value} (present : value.isNull = false) :
    value.type.isUntyped = false := by
  cases value <;> first | rfl | cases present

section Conversion

variable {value result : Value} {target : DataType}

/-- A conversion has a value just if one was found. -/
theorem converted_eq_ok {found : Option Value} :
    value.converted target found = .ok result ↔ found = some result := by
  cases found with
  | none => simp only [converted, reduceCtorEq]
  | some other => simp only [converted, Except.ok.injEq, Option.some.injEq]

theorem settled_converted (found : Option Value) : Settled (value.converted target found) := by
  cases found with
  | none => exact Spares.error rfl
  | some other => exact Spares.ok other

/-- What converts to a whole type is some integer that has been narrowed. -/
theorem convertToWhole_eq_ok {narrow? : Int → Option Value}
    (converts : value.convertToWhole target narrow? = .ok result) :
    ∃ number, narrow? number = some result := by
  unfold convertToWhole at converts
  split at converts
  · cases converts
  · split at converts
    · rename_i narrowed
      cases converts
      exact ⟨_, narrowed⟩
    · cases converts

/-- Conversion to a whole type fails by itself alone. -/
theorem settled_convertToWhole (narrow? : Int → Option Value) :
    Settled (value.convertToWhole target narrow?) := by
  unfold convertToWhole
  split
  · exact Spares.error rfl
  · split
    · exact Spares.ok _
    · exact Spares.error rfl

/-- What has been converted across types is of the type wanted. -/
theorem convertAcross_type (typed : target ≠ .unknown)
    (converts : value.convertAcross target = .ok result) : result.type = target := by
  have ofMap {Content : Type} {content? : Option Content} {wrap : Content → Value}
      (found : content?.map wrap = some result) : ∃ content, wrap content = result := by
    obtain ⟨content, _, same⟩ := Option.map_eq_some_iff.mp found
    exact ⟨content, same⟩
  cases target with
  | unknown => exact absurd rfl typed
  | null => cases converts; rfl
  | varchar => cases converts; rfl
  | boolean => obtain ⟨_, rfl⟩ := ofMap (converted_eq_ok.mp converts); rfl
  | integer =>
      obtain ⟨_, narrowed⟩ := convertToWhole_eq_ok converts
      obtain ⟨_, rfl⟩ := ofMap narrowed
      rfl
  | bigint =>
      obtain ⟨_, narrowed⟩ := convertToWhole_eq_ok converts
      obtain ⟨_, rfl⟩ := ofMap narrowed
      rfl
  | decimal => obtain ⟨_, rfl⟩ := ofMap (converted_eq_ok.mp converts); rfl
  | real => obtain ⟨_, rfl⟩ := ofMap (converted_eq_ok.mp converts); rfl
  | double => obtain ⟨_, rfl⟩ := ofMap (converted_eq_ok.mp converts); rfl
  | time => obtain ⟨_, rfl⟩ := ofMap (converted_eq_ok.mp converts); rfl
  | date => obtain ⟨_, rfl⟩ := ofMap (converted_eq_ok.mp converts); rfl
  | timestamp => obtain ⟨_, rfl⟩ := ofMap (converted_eq_ok.mp converts); rfl
  | varbinary => obtain ⟨_, rfl⟩ := ofMap (converted_eq_ok.mp converts); rfl

/-- A conversion that succeeds ends in a value of the target type, or in `NULL`. -/
theorem convertTo_type (typed : target ≠ .unknown)
    (converts : value.convertTo target = .ok result) : result = .null ∨ result.type = target := by
  unfold convertTo at converts
  split at converts
  · rename_i unchanged
    cases converts
    exact .inr (unchanged.resolve_right typed)
  · split at converts
    · cases converts; exact .inl rfl
    · exact .inr (convertAcross_type typed converts)

/-- A conversion of anything but `NULL` to a type with values keeps it from being `NULL`. -/
theorem convertTo_type_of_present (present : value.isNull = false)
    (typed : target.isUntyped = false) (converts : value.convertTo target = .ok result) :
    result.type = target := by
  have known : target ≠ .unknown := by rintro rfl; cases typed
  unfold convertTo at converts
  split at converts
  · rename_i unchanged
    cases converts
    exact unchanged.resolve_right known
  · split at converts
    · rename_i absent
      rw [present] at absent
      cases absent
    · exact convertAcross_type known converts

theorem convertTo_null : Value.null.convertTo target = .ok .null := by
  unfold convertTo
  split
  · rfl
  · rfl

/-- Conversion brings in no failure that was to be found earlier. -/
theorem settled_convertTo (value : Value) (target : DataType) :
    Settled (value.convertTo target) := by
  unfold convertTo
  split
  · exact Spares.ok value
  · split
    · exact Spares.ok null
    · cases target with
      | unknown | null | varchar => exact Spares.ok _
      | integer | bigint => exact settled_convertToWhole _
      | boolean | decimal | real | double | time | date | timestamp | varbinary =>
          exact settled_converted _

end Conversion

section Arithmetic

variable {op : ArithOp} {left right result : Value}

/-- A computation that may overflow has a result just if there is one that fits. -/
theorem orOverflow_eq_ok {computed : Option Value} :
    orOverflow op left right computed = .ok result ↔ computed = some result := by
  cases computed with
  | none => simp only [orOverflow, reduceCtorEq]
  | some other => simp only [orOverflow, Except.ok.injEq, Option.some.injEq]

theorem settled_orOverflow (computed : Option Value) :
    Settled (orOverflow op left right computed) := by
  cases computed with
  | none => exact Spares.error rfl
  | some other => exact Spares.ok other

/-- Where a divisor is not refused, the result is the computed one. -/
theorem unlessDivisor_eq_ok {isZero : Bool} {computed : Outcome Value}
    (succeeds : unlessDivisor isZero op left right computed = .ok result) :
    computed = .ok result := by
  unfold unlessDivisor at succeeds
  split at succeeds
  · cases succeeds
  · exact succeeds

theorem settled_unlessDivisor {isZero : Bool} {computed : Outcome Value}
    (settled : Settled computed) : Settled (unlessDivisor isZero op left right computed) := by
  unfold unlessDivisor
  split
  · exact Spares.error rfl
  · exact settled

theorem clockAt_type {nanoseconds : Int} (succeeds : clockAt nanoseconds = .ok result) :
    result.type = .time := by
  rw [clockAt_eq] at succeeds
  cases succeeds
  rfl

/-- Reading a time of day off a count brings in no failure that was to be found earlier. -/
theorem settled_clockAt (nanoseconds : Int) : Settled (clockAt nanoseconds) := by
  rw [clockAt_eq]
  exact Spares.ok _

/-- A time of day that is scaled is one still. -/
theorem scaleTime_type {clock : TimeOfDay} {factor : Value}
    (succeeds : scaleTime op clock factor = .ok result) : result.type = .time := by
  unfold scaleTime at succeeds
  split at succeeds
  · cases succeeds
  · have scaled := unlessDivisor_eq_ok succeeds
    split at scaled
    · exact clockAt_type scaled
    · cases scaled

/-- Scaling a time of day brings in no failure that was to be found earlier. -/
theorem settled_scaleTime (clock : TimeOfDay) (factor : Value) :
    Settled (scaleTime op clock factor) := by
  unfold scaleTime
  split
  · exact Spares.error rfl
  · refine settled_unlessDivisor ?_
    split
    · exact settled_clockAt _
    · exact Spares.error rfl

/-- Arithmetic ends in a value of the type of the left operand. -/
theorem arith_type (succeeds : left.arith op right = .ok result) : result.type = left.type := by
  unfold arith at succeeds
  split at succeeds
  · obtain ⟨wide, _, narrowed⟩ :=
      Option.bind_eq_some_iff.mp (orOverflow_eq_ok.mp (unlessDivisor_eq_ok succeeds))
    obtain ⟨_, _, rfl⟩ := Option.map_eq_some_iff.mp narrowed
    rfl
  · obtain ⟨_, _, rfl⟩ :=
      Option.map_eq_some_iff.mp (orOverflow_eq_ok.mp (unlessDivisor_eq_ok succeeds))
    rfl
  · obtain ⟨_, _, rfl⟩ :=
      Option.map_eq_some_iff.mp (orOverflow_eq_ok.mp (unlessDivisor_eq_ok succeeds))
    rfl
  · cases unlessDivisor_eq_ok succeeds; rfl
  · cases unlessDivisor_eq_ok succeeds; rfl
  · split at succeeds
    · exact clockAt_type succeeds
    · exact clockAt_type succeeds
    · exact scaleTime_type succeeds
    · exact scaleTime_type succeeds
    · cases succeeds
  · split at succeeds
    · obtain ⟨_, _, rfl⟩ := Option.map_eq_some_iff.mp (orOverflow_eq_ok.mp succeeds)
      rfl
    · obtain ⟨_, _, rfl⟩ := Option.map_eq_some_iff.mp (orOverflow_eq_ok.mp succeeds)
      rfl
    · cases succeeds
  · cases succeeds

/-- Arithmetic on values brings in no failure that was to be found earlier. -/
theorem settled_arith (op : ArithOp) (left right : Value) : Settled (left.arith op right) := by
  unfold arith
  split
  · exact settled_unlessDivisor (settled_orOverflow _)
  · exact settled_unlessDivisor (settled_orOverflow _)
  · exact settled_unlessDivisor (settled_orOverflow _)
  · exact settled_unlessDivisor (Spares.ok _)
  · exact settled_unlessDivisor (Spares.ok _)
  · split
    · exact settled_clockAt _
    · exact settled_clockAt _
    · exact settled_scaleTime _ _
    · exact settled_scaleTime _ _
    · exact Spares.error rfl
  · split
    · exact settled_orOverflow _
    · exact settled_orOverflow _
    · exact Spares.error rfl
  · exact Spares.error rfl

/-- Negation ends in a value of the type of the operand. -/
theorem negate_type {value : Value} (succeeds : value.negate = .ok result) :
    result.type = value.type := by
  cases value with
  | null => cases succeeds; rfl
  | integer number | bigint number =>
      simp only [negate] at succeeds
      split at succeeds
      · cases succeeds; rfl
      · cases succeeds
  | decimal number | real number | double number => cases succeeds; rfl
  | time clock => exact clockAt_type succeeds
  | boolean _ | varchar _ | date _ | timestamp _ | varbinary _ => cases succeeds

/-- Negating a value brings in no failure that was to be found earlier. -/
theorem settled_negate (value : Value) : Settled value.negate := by
  cases value with
  | null | decimal _ | real _ | double _ => exact Spares.ok _
  | integer number | bigint number =>
      simp only [negate]
      split
      · exact Spares.ok _
      · exact Spares.error rfl
  | time clock => exact settled_clockAt _
  | boolean _ | varchar _ | date _ | timestamp _ | varbinary _ => exact Spares.error rfl

end Arithmetic

end Value

end SqlScalar
