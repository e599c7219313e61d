/-
This file proves when numbers stay finite as they are combined.
-/

import QuadrantChart.Proofs.Binary64.Shift
import QuadrantChart.Proofs.Number.Amount
import QuadrantChart.Proofs.Number.Range

namespace QuadrantChart

namespace Number

variable {exact : Int → Int → Int} {rounded : Binary64 → Binary64 → Binary64}
  {left right result : Number} {value first second : Binary64}

/-- What is combined with a floating point number becomes one itself. -/
theorem combine_left_ok :
    combine exact rounded (.double value) right = .ok result ↔
      ∃ second, right.toDouble = .ok second ∧ .double (rounded value second) = result := by
  rw [combine]
  · simp only [toDouble, Result.bind_ok, Result.pure_ok, Except.ok.injEq, exists_eq_left']
  · rintro _ _ ⟨⟩

theorem combine_right_ok :
    combine exact rounded left (.double value) = .ok result ↔
      ∃ first, left.toDouble = .ok first ∧ .double (rounded first value) = result := by
  rw [combine]
  · simp only [toDouble, Result.bind_ok, Result.pure_ok, Except.ok.injEq, exists_eq_left']
  · rintro _ _ - ⟨⟩

/-- A floating point number is added to what a number converts to. -/
theorem add_double {number : Number} (converts : number.toDouble = .ok first) (value : Binary64) :
    number.add (.double value) = .ok (.double (first + value)) :=
  combine_right_ok.2 ⟨first, converts, rfl⟩

/-- A number that cannot be converted is added to no floating point number. -/
theorem add_unconvertible {number : Number} {fault : Fault}
    (unconvertible : number.toDouble = .error fault) (value : Binary64) :
    number.add (.double value) = .error fault := by
  cases number with
  | double first => cases unconvertible
  | integer first =>
    change (do return Number.double ((← (Number.integer first).toDouble) +
      (← (Number.double value).toDouble))) = _
    rw [unconvertible]
    rfl

theorem isFinite_double : (double value).isFinite = .ok true ↔ value.isFinite = true := by
  simp only [isFinite_ok, toDouble, Except.ok.injEq, exists_eq_left']

theorem Within.isFinite_integer {value : Int} (small : value.natAbs ≤ finiteLimit) :
    (Number.integer value).isFinite = .ok true := by
  have finite := ofQuotient_finite (value < 0) small (by decide : 0 < 1)
  exact isFinite_ok.2 ⟨_, requireFinite_ok.2 ⟨rfl, finite⟩, finite⟩

/-- A result is finite when the rounded one is, or when two integers give a small one. -/
theorem combine_isFinite (combined : combine exact rounded left right = .ok result)
    (leftDouble : left.toDouble = .ok first) (rightDouble : right.toDouble = .ok second)
    (finite : (rounded first second).isFinite = true)
    (small : ∀ leftValue rightValue, left = .integer leftValue → right = .integer rightValue →
      (exact leftValue rightValue).natAbs ≤ finiteLimit) : result.isFinite = .ok true := by
  cases left with
  | double value =>
    obtain ⟨_, same, rfl⟩ := combine_left_ok.1 combined
    cases leftDouble
    cases rightDouble.symm.trans same
    exact isFinite_double.2 finite
  | integer leftValue =>
    cases right with
    | double value =>
      obtain ⟨_, same, rfl⟩ := combine_right_ok.1 combined
      cases rightDouble
      cases leftDouble.symm.trans same
      exact isFinite_double.2 finite
    | integer rightValue =>
      cases combined
      exact Within.isFinite_integer (small _ _ rfl rfl)

/-- A finite number too small to make any finite one overflow. -/
def IsSlight (number : Number) : Prop :=
  ∃ value, number.toDouble = .ok value ∧ value.IsSlight

instance (number : Number) : Decidable number.IsSlight :=
  match converted : number.toDouble with
  | .ok value =>
    decidable_of_iff value.IsSlight ⟨fun slight => ⟨value, converted, slight⟩,
      fun ⟨_, converts, slight⟩ => Except.ok.inj (converts.symm.trans converted) ▸ slight⟩
  | .error _ => isFalse fun ⟨_, converts, _⟩ => nomatch converted.symm.trans converts

theorem IsSlight.isFinite {number : Number} (slight : number.IsSlight) :
    number.isFinite = .ok true := by
  obtain ⟨value, converts, isSlight⟩ := slight
  exact isFinite_ok.2 ⟨value, converts, isSlight.isFinite⟩

/-- Half of a slight number is a slight floating point number. -/
theorem IsSlight.half {number half : Number} (slight : number.IsSlight)
    (halved : number.half = .ok half) : ∃ value, half = .double value ∧ value.IsSlight := by
  obtain ⟨whole, converts, isSlight⟩ := slight
  cases number with
  | double value =>
    cases converts
    cases halved
    exact ⟨_, rfl, isSlight.half⟩
  | integer value =>
    obtain ⟨rfl, -⟩ := requireFinite_ok.1 converts
    obtain ⟨_, nearest, rfl⟩ := Result.map_ok.1 halved
    obtain ⟨rfl, -⟩ := requireFinite_ok.1 nearest
    refine ⟨_, rfl, ?_⟩
    rw [Binary64.ofQuotient, Binary64.ofUnits_isSlight] at isSlight ⊢
    exact Nat.lt_of_le_of_lt (Binary64.roundedQuotient_half _) isSlight

/-- What is slight can be added to a finite number, where integers stay small. -/
theorem IsSlight.add {left right sum : Number} (slight : right.IsSlight)
    (finite : left.isFinite = .ok true) (leftSmall : left.Within (2 ^ 51))
    (rightSmall : right.Within (2 ^ 50)) (added : left.add right = .ok sum) :
    sum.isFinite = .ok true := by
  obtain ⟨second, rightDouble, isSlight⟩ := slight
  obtain ⟨first, leftDouble, leftFinite⟩ := isFinite_ok.1 finite
  refine combine_isFinite added leftDouble rightDouble (isSlight.shift leftFinite) ?_
  intro leftValue rightValue leftInteger rightInteger
  have leftBound := leftSmall leftValue leftInteger
  have rightBound := rightSmall rightValue rightInteger
  rw [finiteLimit]
  omega

theorem IsSlight.sub {left right difference : Number} (slight : right.IsSlight)
    (finite : left.isFinite = .ok true) (leftSmall : left.Within (2 ^ 51))
    (rightSmall : right.Within (2 ^ 50)) (subtracted : left.sub right = .ok difference) :
    difference.isFinite = .ok true := by
  obtain ⟨second, rightDouble, isSlight⟩ := slight
  obtain ⟨first, leftDouble, leftFinite⟩ := isFinite_ok.1 finite
  refine combine_isFinite subtracted leftDouble rightDouble (isSlight.shift_back leftFinite) ?_
  intro leftValue rightValue leftInteger rightInteger
  have leftBound := leftSmall leftValue leftInteger
  have rightBound := rightSmall rightValue rightInteger
  rw [finiteLimit]
  omega

end Number

end QuadrantChart
