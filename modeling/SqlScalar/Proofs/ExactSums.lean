import Mathlib.Algebra.BigOperators.Group.List.Basic
import Mathlib.Algebra.Ring.Int.Defs
import Mathlib.Data.List.Induction
import SqlScalar.Proofs.ColumnRuns
import SqlScalar.Proofs.ExactIntegers
import SqlScalar.Proofs.WholeValues

/-! # Exact sums of integers

The sum over a column of integers is wider than the column: of 64 bits for integers of 32 bits, and
a decimal number for integers of 64 bits. So up to four billion rows no sum of the first few of them
is out of range, whatever their order, and the sum over all of them is exact.
-/

namespace SqlScalar

namespace Decimal

variable {left right number : Decimal}

/-- Whether a number has no minus sign if it is zero. -/
def UnsignedZero (number : Decimal) : Prop :=
  number.mantissa = 0 → number.negative = false

theorem unsignedZero_ofInt64 (number : Int64) : (ofInt64 number).UnsignedZero := by
  intro isZero
  have zero : number.toInt = 0 := Int.natAbs_eq_zero.mp isZero
  simp only [ofInt64, zero, Int.lt_irrefl, decide_false]

/-- Parts that have been checked make no negative zero. -/
theorem unsignedZero_of_ofResult? {negative : Bool} {mantissa scale : Nat}
    (isResult : ofResult? negative mantissa scale = some number) : number.UnsignedZero := by
  unfold ofResult? ofParts? at isResult
  split at isResult
  · cases isResult
    intro isZero
    simp only [bne_eq_false_iff_eq.mpr isZero, Bool.and_false]
  · cases isResult

theorem unsignedZero_of_fit? {negative : Bool} {mantissa scale leastDrop : Nat}
    (fits : fit? negative mantissa scale leastDrop = some number) : number.UnsignedZero := by
  obtain ⟨drop, _, isResult⟩ := List.exists_of_findSome?_eq_some fits
  split at isResult
  · exact unsignedZero_of_ofResult? isResult
  · cases isResult

/-- A sum is zero with a minus sign only if a summand is. -/
theorem UnsignedZero.of_add? (leftUnsigned : left.UnsignedZero) (rightUnsigned : right.UnsignedZero)
    (adds : left.add? right = some number) : number.UnsignedZero := by
  unfold add? at adds
  split at adds
  · cases adds
    exact rightUnsigned
  · split at adds
    · cases adds
      exact leftUnsigned
    · exact unsignedZero_of_fit? adds

/-- Only zero is written in two ways without digits behind the point. -/
theorem IsWhole.eq_of_unsignedZero {whole : Int} (leftWhole : left.IsWhole whole)
    (rightWhole : right.IsWhole whole) (leftUnsigned : left.UnsignedZero)
    (rightUnsigned : right.UnsignedZero) : left = right := by
  have mantissas : left.mantissa = right.mantissa := by rw [leftWhole.mantissa, rightWhole.mantissa]
  have scales : left.scale = right.scale := by rw [leftWhole.scale, rightWhole.scale]
  have signs : left.signed = right.signed := by rw [leftWhole.signed, rightWhole.signed]
  obtain ⟨leftSign, mantissa, scale, _, _⟩ := left
  obtain ⟨rightSign, _, _, _, _⟩ := right
  obtain rfl : mantissa = _ := mantissas
  obtain rfl : scale = _ := scales
  have negative : leftSign = rightSign := by
    by_cases isZero : mantissa = 0
    · have leftPlain : leftSign = false := leftUnsigned isZero
      have rightPlain : rightSign = false := rightUnsigned isZero
      rw [leftPlain, rightPlain]
    · cases leftSign with
      | false =>
          cases rightSign with
          | false => rfl
          | true =>
              have opposite : (mantissa : Int) = -mantissa := signs
              omega
      | true =>
          cases rightSign with
          | false =>
              have opposite : -(mantissa : Int) = mantissa := signs
              omega
          | true => rfl
  rw [negative]

end Decimal

/-- Whether a number lies where sums of so many integers of a type do. -/
def DataType.FitsTimes : DataType → Nat → Int → Prop
  | integer, count, number => -2147483648 * count ≤ number ∧ number ≤ 2147483647 * count
  | bigint, count, number =>
      -9223372036854775808 * count ≤ number ∧ number ≤ 9223372036854775807 * count
  | _, _, _ => False

namespace DataType

variable {type : DataType} {count : Nat} {number other : Int}

theorem fitsTimes_zero (isWhole : type.isWhole = true) : type.FitsTimes 0 0 := by
  rcases isWhole_iff.mp isWhole with rfl | rfl
  · exact ⟨Int.le_refl _, Int.le_refl _⟩
  · exact ⟨Int.le_refl _, Int.le_refl _⟩

/-- Another integer takes a sum no further than to where sums of one more integer lie. -/
theorem FitsTimes.add (fits : type.FitsTimes count number) (otherFits : type.Fits other) :
    type.FitsTimes (count + 1) (number + other) := by
  cases type with
  | integer | bigint =>
      obtain ⟨lower, upper⟩ := fits
      obtain ⟨otherLower, otherUpper⟩ := otherFits
      constructor <;> omega
  | _ => cases fits

/-- A sum of no more than four billion integers of 32 bits has 64 bits. -/
theorem FitsTimes.fits_bigint (fits : integer.FitsTimes count number)
    (bounded : count ≤ 2 ^ (32 : Nat)) : bigint.Fits number := by
  obtain ⟨lower, upper⟩ := fits
  constructor <;> omega

/-- A sum of no more than four billion integers of 64 bits has 96 bits. -/
theorem FitsTimes.natAbs_lt (fits : bigint.FitsTimes count number)
    (bounded : count ≤ 2 ^ (32 : Nat)) : number.natAbs < Decimal.mantissaLimit := by
  obtain ⟨lower, upper⟩ := fits
  unfold Decimal.mantissaLimit
  omega

end DataType

namespace Value

/-- Whether a value is a number of a type that sums have, and equal to a total. -/
inductive IsTotal : DataType → Int → Value → Prop
  | bigint (number : Int64) : IsTotal .bigint number.toInt (.bigint number)
  | decimal {number : Decimal} {total : Int} (whole : number.IsWhole total)
      (unsigned : number.UnsignedZero) : IsTotal .decimal total (.decimal number)

/-- The total of the whole numbers among some values. -/
def total (values : List Value) : Int :=
  (values.filterMap toWhole?).sum

variable {type output : DataType} {sum value other : Value} {number partialTotal : Int}

/-- A total is one value of a type. -/
theorem IsTotal.unique (isTotal : IsTotal output number value)
    (otherIsTotal : IsTotal output number other) : value = other := by
  cases isTotal with
  | bigint held =>
      generalize same : held.toInt = total at otherIsTotal
      cases otherIsTotal with
      | bigint otherHeld => rw [Int64.toInt_inj.mp same]
  | decimal whole unsigned =>
      cases otherIsTotal with
      | decimal otherWhole otherUnsigned =>
          rw [whole.eq_of_unsignedZero otherWhole unsigned otherUnsigned]

theorem total_concat {values : List Value} (counts : value.toWhole? = some number) :
    total (values ++ [value]) = total values + number := by
  have single : [value].filterMap toWhole? = [number] := by
    rw [List.filterMap_cons_some counts, List.filterMap_nil]
  rw [total, List.filterMap_append, List.sum_append, single, List.sum_singleton]
  rfl

theorem total_perm {values reordered : List Value} (perm : reordered.Perm values) :
    total reordered = total values :=
  (perm.filterMap toWhole?).sum_eq

/-- A value of a type of whole numbers is a number that fits it. -/
theorem fits_toWhole (isWhole : type.isWhole = true) (typed : value.type = type) :
    ∃ number, value.toWhole? = some number ∧ type.Fits number := by
  subst typed
  cases value with
  | integer held => exact ⟨held.toInt, rfl, fits_toInt32 held⟩
  | bigint held => exact ⟨held.toInt, rfl, fits_toInt64 held⟩
  | _ => cases isWhole

/-- The total of some values lies where sums of so many integers do. -/
theorem total_fitsTimes (isWhole : type.isWhole = true) {values : List Value}
    (typed : ∀ value ∈ values, value.type = type) :
    type.FitsTimes values.length (total values) := by
  induction values using List.reverseRecOn with
  | nil => exact DataType.fitsTimes_zero isWhole
  | append_singleton values value ih =>
      obtain ⟨restTyped, valueTyped⟩ := List.forall_mem_append.mp typed
      obtain ⟨number, counts, fits⟩ :=
        fits_toWhole isWhole (valueTyped value List.mem_cons_self)
      rw [total_concat counts, List.length_append, List.length_singleton]
      exact (ih restTyped).add fits

section Summands

variable (isWhole : type.isWhole = true) (isOutput : AggregateKind.sum.outputType type = .ok output)

include isWhole isOutput

/-- A summand is converted to the type of the sum as the number it is. -/
theorem exists_summand (typed : value.type = type) (counts : value.toWhole? = some number) :
    ∃ summand, value.convertTo output = .ok summand ∧ IsTotal output number summand := by
  subst typed
  cases value with
  | integer held =>
      cases isOutput
      cases counts
      obtain ⟨lower, upper⟩ := fits_toInt32 held
      have fits : DataType.bigint.Fits held.toInt := by
        constructor <;> omega
      obtain ⟨wide, widens⟩ := exists_narrow64? fits
      refine ⟨.bigint wide, ?_, ?_⟩
      · change (integer held).convertToWhole .bigint
          (fun number => (narrow64? number).map bigint) = _
        simp only [convertToWhole, toWhole?, widens, Option.map_some]
      · rw [← narrow64?_eq_some.mp widens]
        exact .bigint wide
  | bigint held =>
      cases isOutput
      cases counts
      exact ⟨_, rfl, .decimal (Decimal.isWhole_ofInt64 held) (Decimal.unsignedZero_ofInt64 held)⟩
  | _ => cases isWhole

/-- Two numbers add up, as long as there is room for their sum. -/
theorem exists_sum {left right : Value} {a b : Int} {count : Nat}
    (leftTotal : IsTotal output a left) (rightTotal : IsTotal output b right)
    (fits : type.FitsTimes count (a + b)) (bounded : count ≤ 2 ^ (32 : Nat)) :
    ∃ sum, left.arith .plus right = .ok sum ∧ IsTotal output (a + b) sum := by
  rcases DataType.isWhole_iff.mp isWhole with rfl | rfl
  · cases isOutput
    cases leftTotal with
    | bigint a =>
        cases rightTotal with
        | bigint b =>
            have noRemainder : ¬ (ArithOp.plus = .modulus ∧ a = Int64.minValue ∧ b = -1) := nofun
            have exactly := (computesExactly_bigint noRemainder).result nofun
            obtain ⟨sum, adds, typed, counts⟩ := exactly.value.mpr (fits.fits_bigint bounded)
            refine ⟨sum, adds, ?_⟩
            cases sum with
            | bigint held =>
                have same : held.toInt = a.toInt + b.toInt := Option.some.inj counts
                rw [← same]
                exact .bigint held
            | _ => cases typed
  · cases isOutput
    cases leftTotal with
    | decimal leftWhole leftUnsigned =>
        cases rightTotal with
        | decimal rightWhole rightUnsigned =>
            obtain ⟨number, adds, whole⟩ := leftWhole.add? rightWhole (fits.natAbs_lt bounded)
            refine ⟨.decimal number, ?_, .decimal whole (leftUnsigned.of_add? rightUnsigned adds)⟩
            exact congrArg (fun sum => orOverflow .plus _ _ (sum.map decimal)) adds

/-- What a sum has added up after some values: nothing if there were none. -/
inductive HoldsTotal (output : DataType) : List Value → Option Value → Prop
  | nothing : HoldsTotal output [] none
  | total {values : List Value} {sum : Value} (nonempty : values ≠ [])
      (isTotal : IsTotal output (Value.total values) sum) : HoldsTotal output values (some sum)

/-- A value of the column is added to what has been added up before it. -/
theorem exists_accumulate_sum (sql : String) {seen : List Value} {accumulated : Option Value}
    (typed : ∀ input ∈ seen ++ [value], input.type = type)
    (bounded : (seen ++ [value]).length ≤ 2 ^ (32 : Nat))
    (holds : HoldsTotal output seen accumulated) :
    ∃ next, AggregateKind.sum.accumulate (some output) sql accumulated value = .ok next ∧
      HoldsTotal output (seen ++ [value]) next := by
  have valueTyped : value.type = type :=
    typed value (List.mem_append_right _ List.mem_cons_self)
  obtain ⟨number, counts, _⟩ := fits_toWhole isWhole valueTyped
  obtain ⟨summand, converts, isSummand⟩ := exists_summand isWhole isOutput valueTyped counts
  have fits := total_fitsTimes isWhole typed
  rw [total_concat counts] at fits
  have nonempty : seen ++ [value] ≠ [] := List.concat_ne_nil value seen
  suffices found : ∃ next, AggregateKind.addSummand output accumulated value = .ok next ∧
      IsTotal output (total (seen ++ [value])) next by
    obtain ⟨next, adds, isTotal⟩ := found
    refine ⟨some next, ?_, .total nonempty isTotal⟩
    exact bind_eq_ok.mpr ⟨output, rfl, bind_eq_ok.mpr ⟨next, adds, rfl⟩⟩
  rw [total_concat counts]
  cases holds with
  | nothing =>
      refine ⟨summand, bind_eq_ok.mpr ⟨summand, converts, rfl⟩, ?_⟩
      rwa [total, List.filterMap_nil, List.sum_nil, Int.zero_add]
  | total _ isTotal =>
      obtain ⟨next, adds, isNext⟩ := exists_sum isWhole isOutput isTotal isSummand fits bounded
      exact ⟨next, bind_eq_ok.mpr ⟨summand, converts, adds⟩, isNext⟩

/-- A sum over any values of the column, and not too many of them, is never out of range. -/
theorem exists_foldlM_sum (sql : String) {seen rest : List Value} {accumulated : Option Value}
    (typed : ∀ input ∈ seen ++ rest, input.type = type)
    (bounded : (seen ++ rest).length ≤ 2 ^ (32 : Nat))
    (holds : HoldsTotal output seen accumulated) :
    ∃ result, rest.foldlM (AggregateKind.sum.accumulate (some output) sql) accumulated =
      .ok result ∧ HoldsTotal output (seen ++ rest) result := by
  induction rest generalizing seen accumulated with
  | nil =>
      rw [List.append_nil]
      exact ⟨accumulated, rfl, holds⟩
  | cons value rest ih =>
      have split : seen ++ value :: rest = (seen ++ [value]) ++ rest := List.append_cons ..
      rw [split] at typed bounded ⊢
      have shorter : (seen ++ [value]).length ≤ 2 ^ (32 : Nat) := by
        rw [List.length_append] at bounded
        omega
      obtain ⟨next, accumulates, holdsNext⟩ :=
        exists_accumulate_sum isWhole isOutput sql (List.forall_mem_append.mp typed).1 shorter holds
      obtain ⟨result, folds, holdsResult⟩ := ih typed bounded holdsNext
      refine ⟨result, ?_, holdsResult⟩
      rw [List.foldlM_cons, accumulates]
      exact folds

end Summands

end Value

namespace Value

/-- Whether a value is the sum of some inputs: `NULL` if all of them are, and else a number of the
type of the sum that is equal to their total. -/
structure IsSumOf (output : DataType) (inputs : List Value) (sum : Value) : Prop where
  null : nonNulls inputs = [] → sum = .null
  exact : nonNulls inputs ≠ [] → IsTotal output (total (nonNulls inputs)) sum

/-- The same inputs in another order have the same sum. -/
theorem IsSumOf.eq_of_perm {output : DataType} {inputs reordered : List Value} {sum other : Value}
    (isSum : IsSumOf output inputs sum) (otherIsSum : IsSumOf output reordered other)
    (perm : reordered.Perm inputs) : other = sum := by
  have presentPerm : (nonNulls reordered).Perm (nonNulls inputs) := perm.filter _
  by_cases empty : nonNulls inputs = []
  · rw [empty, List.perm_nil] at presentPerm
    rw [isSum.null empty, otherIsSum.null presentPerm]
  · have otherNonempty : nonNulls reordered ≠ [] := by
      intro otherEmpty
      rw [otherEmpty, List.nil_perm] at presentPerm
      exact empty presentPerm
    have isTotal := otherIsSum.exact otherNonempty
    rw [total_perm presentPerm] at isTotal
    exact isTotal.unique (isSum.exact empty)

/-- What has been added up is the sum of the inputs. -/
theorem HoldsTotal.isSumOf {output : DataType} {inputs : List Value} {accumulated : Option Value}
    (holds : HoldsTotal output (nonNulls inputs) accumulated) :
    IsSumOf output inputs (accumulated.getD .null) := by
  generalize presentEq : nonNulls inputs = present at holds
  cases holds with
  | nothing => exact ⟨fun _ => rfl, fun nonempty => absurd presentEq nonempty⟩
  | total nonempty isTotal =>
      subst presentEq
      exact ⟨fun empty => absurd empty nonempty, fun _ => isTotal⟩

end Value

namespace Expr

variable {reference : ColumnRef} {contexts : List Context} {inputs : List Value}
  {output : DataType}

theorem length_nonNulls_le (supplies : List.Forall₂ reference.Supplies contexts inputs)
    (bounded : contexts.length ≤ 2 ^ (32 : Nat)) :
    (Value.nonNulls inputs).length ≤ 2 ^ (32 : Nat) := by
  rw [supplies.length_eq] at bounded
  exact Nat.le_trans (List.length_filter_le _ _) bounded

/-- The sum over a column of integers is the sum of the values it has in the rows. -/
theorem sum_comesTo (isWhole : reference.type.isWhole = true)
    (isOutput : AggregateKind.sum.outputType reference.type = .ok output)
    (supplies : List.Forall₂ reference.Supplies contexts inputs)
    (bounded : contexts.length ≤ 2 ^ (32 : Nat)) :
    ∃ sum, (aggregate .sum (column reference) (some output) .start).ComesTo contexts sum ∧
      Value.IsSumOf output inputs sum := by
  obtain ⟨accumulated, folds, holds⟩ :=
    Value.exists_foldlM_sum isWhole isOutput
      (aggregate .sum (column reference) (some output) .start).sql
      (ColumnRef.type_of_supplies supplies) (length_nonNulls_le supplies bounded) .nothing
  have accumulates := (AggregateKind.foldlM_accumulate_eq_ok _).mp folds
  exact ⟨_, ⟨_, feedAll_column supplies accumulates, fun _ => rfl⟩, holds.isSumOf⟩

/-- The count over a column is the number of rows in which it is not `NULL`. -/
theorem count_comesTo (supplies : List.Forall₂ reference.Supplies contexts inputs) :
    (aggregate .count (column reference) (some .bigint) .start).ComesTo contexts
      (.bigint (Int64.ofNat (Value.nonNulls inputs).length)) := by
  have accumulates : AggregateKind.count.Accumulates (some .bigint) none (Value.nonNulls inputs)
      none := (ite_self none).symm
  refine ⟨_, feedAll_column supplies accumulates, fun _ => ?_⟩
  change Except.ok (Value.bigint (Int64.ofNat (0 + _))) = _
  rw [Nat.zero_add]

/-- A sum over a column of integers and a count can be resolved, and take up to four billion rows
in which the column is `NULL` or of its type. The sum is exact, or `NULL` if the column always is,
and the count is the number of rows in which it is not. In whichever order the rows come, both are
the same. -/
theorem sum_and_count_of_column (mode : Mode) (isWhole : reference.type.isWhole = true)
    (supplies : List.Forall₂ reference.Supplies contexts inputs)
    (bounded : contexts.length ≤ 2 ^ (32 : Nat)) :
    ∃ (output : DataType) (freshSum freshCount : Expr) (sum : Value) (count : Int64),
      AggregateKind.sum.outputType reference.type = .ok output ∧
      (aggregated .sum (column reference)).resolve mode = .ok freshSum ∧
      (aggregated .count (column reference)).resolve mode = .ok freshCount ∧
      Value.IsSumOf output inputs sum ∧
      count.toInt = (Value.nonNulls inputs).length ∧
      ∀ reordered : List Context, reordered.Perm contexts →
        freshSum.ComesTo reordered sum ∧ freshCount.ComesTo reordered (.bigint count) := by
  have typed := DataType.ne_unknown_of_isWhole isWhole
  obtain ⟨output, isOutput⟩ :
      ∃ output, AggregateKind.sum.outputType reference.type = .ok output := by
    rcases DataType.isWhole_iff.mp isWhole with integer | bigint
    · rw [integer]
      exact ⟨_, rfl⟩
    · rw [bigint]
      exact ⟨_, rfl⟩
  obtain ⟨sum, _, isSum⟩ := sum_comesTo isWhole isOutput supplies bounded
  refine ⟨output, _, _, sum, Int64.ofNat (Value.nonNulls inputs).length, isOutput,
    resolve_aggregated_column mode typed isOutput, resolve_aggregated_column mode typed rfl, isSum,
    ?_, fun reordered perm => ?_⟩
  · have small := length_nonNulls_le supplies bounded
    exact Int64.toInt_ofNat_of_lt (by omega)
  · obtain ⟨reorderedInputs, reorderedSupplies, inputsPerm⟩ :=
      ColumnRef.supplies_of_perm supplies perm
    have reorderedBounded : reordered.length ≤ 2 ^ (32 : Nat) := by rwa [perm.length_eq]
    obtain ⟨other, comesTo, otherIsSum⟩ :=
      sum_comesTo isWhole isOutput reorderedSupplies reorderedBounded
    rw [isSum.eq_of_perm otherIsSum inputsPerm] at comesTo
    have sameCount : (Value.nonNulls reorderedInputs).length = (Value.nonNulls inputs).length :=
      (inputsPerm.filter _).length_eq
    have counts := count_comesTo reorderedSupplies
    rw [sameCount] at counts
    exact ⟨comesTo, counts⟩

/-- Twice the largest `BIGINT` has no place in 64 bits, but the sum over the column has. -/
theorem sum_and_count_of_largest_integers :
    let amount : ColumnRef := ⟨none, "N", some ⟨"T", ⟨0, .bigint⟩, 0⟩, true⟩
    let holding (value : Value) : Context := ⟨.regular, [value], []⟩
    let largest : Value := .bigint Int64.maxValue
    let contexts := [holding largest, holding .null, holding largest, holding (.bigint 1)]
    ∃ (freshSum : Expr) (sum : Value) (count : Int64),
      (aggregated .sum (column amount)).resolve .regular = .ok freshSum ∧
      Value.IsTotal .decimal 18446744073709551615 sum ∧ count.toInt = 3 ∧
      ∀ reordered : List Context, reordered.Perm contexts → freshSum.ComesTo reordered sum := by
  intro amount holding largest contexts
  have supplies : List.Forall₂ amount.Supplies contexts [largest, .null, largest, .bigint 1] :=
    .cons ⟨rfl, .inr rfl⟩ <| .cons ⟨rfl, .inl rfl⟩ <| .cons ⟨rfl, .inr rfl⟩ <|
      .cons ⟨rfl, .inr rfl⟩ .nil
  have bounded : contexts.length ≤ 2 ^ (32 : Nat) := by decide
  obtain ⟨output, freshSum, _, sum, count, isOutput, resolves, _, isSum, counts, comesTo⟩ :=
    sum_and_count_of_column .regular rfl supplies bounded
  cases isOutput
  exact ⟨freshSum, sum, count, resolves, isSum.exact nofun, counts,
    fun reordered perm => (comesTo reordered perm).1⟩

end Expr

end SqlScalar
