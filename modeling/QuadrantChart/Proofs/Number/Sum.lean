/-
This file says what sums of numbers are in floating point numbers.
-/

import QuadrantChart.Proofs.Binary64.Amount
import QuadrantChart.Proofs.Number.Geometry
import QuadrantChart.Proofs.Result

namespace QuadrantChart

namespace Number

theorem requireFinite_ok {fault : Fault} {value result : Binary64} :
    requireFinite fault value = .ok result ↔ value = result ∧ value.isFinite = true := by
  cases value <;> simp [requireFinite, Binary64.isFinite]

/-- A scale of one changes a number to its nearest floating point number. -/
theorem mul_one_ok {number result : Number} :
    number.mul (.double 1) = .ok result ↔
      ∃ value, number.toDouble = .ok value ∧ result = .double value := by
  have nearest : number.mul (.double 1) =
      number.toDouble >>= fun value => .ok (.double (value * 1)) := by
    cases number <;> rfl
  simp only [nearest, Result.bind_ok, Binary64.mul_one, Except.ok.injEq]
  exact exists_congr fun value => and_congr_right fun _ => eq_comm

def IsDouble (number : Number) : Prop :=
  ∃ value, number = .double value

/-- What is combined with a floating point number becomes one. -/
theorem combine_isDouble {exact : Int → Int → Int} {rounded : Binary64 → Binary64 → Binary64}
    {left right result : Number} (one : left.IsDouble ∨ right.IsDouble)
    (combined : combine exact rounded left right = .ok result) : result.IsDouble := by
  have rounds : ∃ first second, left.toDouble = .ok first ∧ right.toDouble = .ok second ∧
      .double (rounded first second) = result := by
    rcases one with ⟨value, rfl⟩ | ⟨value, rfl⟩
    · cases right <;> simpa only [combine, Result.bind_ok, Result.pure_ok, ← exists_and_left]
        using combined
    · cases left <;> simpa only [combine, Result.bind_ok, Result.pure_ok, ← exists_and_left]
        using combined
  obtain ⟨first, second, -, -, rfl⟩ := rounds
  exact ⟨_, rfl⟩

/-- Only two integers are added without rounding. -/
theorem add_rounded {left right sum : Number}
    (mixed : ∀ first second, ¬(left = .integer first ∧ right = .integer second)) :
    left.add right = .ok sum ↔
      ∃ first second, left.toDouble = .ok first ∧ right.toDouble = .ok second ∧
        sum = .double (first + second) := by
  have rounded : left.add right =
      (do return .double ((← left.toDouble) + (← right.toDouble)) : Except Fault Number) := by
    cases left with
    | double first => cases right <;> rfl
    | integer first =>
      cases right with
      | double second => rfl
      | integer second => exact absurd ⟨rfl, rfl⟩ (mixed first second)
  rw [rounded]
  simp only [Result.bind_ok, Result.pure_ok]
  constructor
  · rintro ⟨first, leftDouble, second, rightDouble, rfl⟩
    exact ⟨first, second, leftDouble, rightDouble, rfl⟩
  · rintro ⟨first, second, leftDouble, rightDouble, rfl⟩
    exact ⟨first, leftDouble, second, rightDouble, rfl⟩

/-- Two numbers whose sum is rounded only once when they are floating point numbers first. -/
def SumsAlike (left right : Number) : Prop :=
  ∀ first second, left = .integer first → right = .integer second → left.Exact ∧ right.Exact

/-- The nearest floating point number to a sum is the sum of the nearest floating point numbers,
unless two integers are added of which one has to be rounded. -/
theorem SumsAlike.add {left right sum : Number} {first second total : Binary64}
    (alike : SumsAlike left right) (added : left.add right = .ok sum)
    (leftDouble : left.toDouble = .ok first) (rightDouble : right.toDouble = .ok second)
    (sumDouble : sum.toDouble = .ok total) : Binary64.Same total (first + second) := by
  by_cases mixed : ∀ first second, ¬(left = .integer first ∧ right = .integer second)
  · obtain ⟨_, _, leftAgain, rightAgain, rfl⟩ := (add_rounded mixed).1 added
    cases leftDouble.symm.trans leftAgain
    cases rightDouble.symm.trans rightAgain
    cases sumDouble
    exact Binary64.same_refl _
  · simp only [not_forall, not_not] at mixed
    obtain ⟨leftValue, rightValue, rfl, rfl⟩ := mixed
    obtain ⟨leftExact, rightExact⟩ := alike leftValue rightValue rfl rfl
    obtain ⟨leftUnits, leftFits, leftFinite, leftSigned⟩ := leftExact.toDouble
    obtain ⟨rightUnits, rightFits, rightFinite, rightSigned⟩ := rightExact.toDouble
    cases leftDouble.symm.trans leftFinite
    cases rightDouble.symm.trans rightFinite
    cases added
    change (integer (leftValue + rightValue)).toDouble = _ at sumDouble
    obtain ⟨rfl, -⟩ := requireFinite_ok.1 sumDouble
    change Binary64.Same _ (Binary64.ofSignedUnits _
      (Binary64.signedUnits _ leftUnits + Binary64.signedUnits _ rightUnits))
    rw [leftSigned, rightSigned, ← Int.add_mul, Binary64.ofQuotient]
    generalize leftValue + rightValue = value
    have positive := Binary64.unitsPerOne_positive
    generalize Binary64.unitsPerOne = unit at positive
    by_cases zero : value = 0
    · subst zero
      have fits : Binary64.Representable 0 := ⟨by decide +kernel, by decide⟩
      simp [Binary64.ofSignedUnits, Binary64.ofUnits_exact _ fits, Binary64.Same,
        Binary64.signedUnits]
    · have nonzero : value * unit ≠ 0 := Int.mul_ne_zero zero (by omega)
      have sign : value * (unit : Int) < 0 * unit ↔ value < 0 :=
        Int.mul_lt_mul_right (by omega)
      rw [Int.zero_mul] at sign
      rw [Binary64.ofSignedUnits, if_neg nonzero, Int.natAbs_mul, Int.natAbs_natCast]
      simp only [sign]
      exact Binary64.same_refl _

end Number

end QuadrantChart
