/-
This file proves that the texts of geometries lose nothing of a number, and which numbers have none.
-/

import QuadrantChart.Proofs.Binary64.PlainText
import QuadrantChart.Proofs.Binary64.Shift
import QuadrantChart.Proofs.Number.Sum

namespace QuadrantChart

namespace Binary64

/-- Integers overflow from halfway between the greatest finite magnitude and the next power of
two. -/
theorem ofQuotient_infinite_iff {negative : Bool} {magnitude : Nat} :
    ofQuotient negative magnitude 1 = .infinite negative ↔ 2 ^ 1024 ≤ magnitude + 2 ^ 970 := by
  have limit : overflowUnits = 2 ^ 1024 * unitsPerOne := by decide +kernel
  have slack : slackUnits = 2 ^ 970 * unitsPerOne := by decide +kernel
  have first : overflowUnits ≤ roundedQuotient (overflowUnits - slackUnits) 1 := by
    decide +kernel
  have scaled : 2 ^ 1024 ≤ magnitude + 2 ^ 970 ↔
      overflowUnits ≤ magnitude * unitsPerOne + slackUnits := by
    rw [limit, slack, ← Nat.add_mul, Nat.mul_le_mul_right_iff unitsPerOne_positive]
  have infinite : ofQuotient negative magnitude 1 = .infinite negative ↔
      overflowUnits ≤ roundedQuotient (magnitude * unitsPerOne) 1 := by
    unfold ofQuotient ofUnits
    split <;> simp <;> omega
  rw [infinite, scaled]
  constructor
  · intro above
    refine Nat.le_of_not_lt fun below => ?_
    exact Nat.not_lt.2 above (rounded_below_overflow below)
  · intro above
    exact Nat.le_trans first (roundedQuotient_mono 1 (by omega))

end Binary64

namespace Number

/-- An integer whose nearest floating point number is infinite. -/
def RoundsToInfinity (number : Number) : Prop :=
  ∃ value, number = .integer value ∧
    Binary64.ofQuotient (value < 0) value.natAbs 1 = .infinite (value < 0)

theorem roundsToInfinity_iff {value : Int} :
    (integer value).RoundsToInfinity ↔ 2 ^ 1024 ≤ value.natAbs + 2 ^ 970 := by
  rw [← @Binary64.ofQuotient_infinite_iff (value < 0), RoundsToInfinity]
  constructor
  · rintro ⟨_, same, infinite⟩
    cases same
    exact infinite
  · exact fun infinite => ⟨value, rfl, infinite⟩

/-- Only integers that are rounded to infinity have no nearest number. -/
theorem toDouble_error {number : Number} {fault : Fault} :
    number.toDouble = .error fault ↔ fault = .integerTooLarge ∧ number.RoundsToInfinity := by
  cases number with
  | double value =>
    constructor
    · rintro ⟨⟩
    · rintro ⟨-, _, ⟨⟩, -⟩
  | integer value =>
    have rounded : (integer value).RoundsToInfinity ↔
        Binary64.ofQuotient (value < 0) value.natAbs 1 = .infinite (value < 0) := by
      rw [roundsToInfinity_iff, Binary64.ofQuotient_infinite_iff]
    rw [rounded, toDouble]
    unfold Binary64.ofQuotient Binary64.ofUnits
    split
    · simp [requireFinite]
    · simp [requireFinite, eq_comm]

theorem geometryText_error_iff {number : Number} {fault : Fault} :
    number.geometryText = .error fault ↔
      fault = .integerTooLarge ∧ number.RoundsToInfinity := by
  rw [← toDouble_error, geometryText, Result.bind_error]
  constructor
  · rintro (fails | ⟨_, -, ⟨⟩⟩)
    exact fails
  · exact .inl

/-- Numbers with one text are equal as floating point numbers. -/
theorem geometryText_same {number other : Number} {text : Text}
    (written : number.geometryText = .ok text) (otherWritten : other.geometryText = .ok text) :
    ∃ nearest otherNearest, number.toDouble = .ok nearest ∧
      other.toDouble = .ok otherNearest ∧ Binary64.Same nearest otherNearest := by
  rw [geometryText, Result.bind_ok] at written otherWritten
  obtain ⟨nearest, converts, shown⟩ := written
  obtain ⟨otherNearest, otherConverts, otherShown⟩ := otherWritten
  refine ⟨nearest, otherNearest, converts, otherConverts, ?_⟩
  obtain ⟨read, reads, same⟩ := nearest.read_writtenPlain
  obtain ⟨otherRead, otherReads, otherSame⟩ := otherNearest.read_writtenPlain
  rw [Result.pure_ok] at shown otherShown
  rw [shown] at reads
  rw [otherShown, reads] at otherReads
  cases otherReads
  exact Binary64.same_trans _ _ _ (Binary64.same_symm same) otherSame

/-- A geometry shows every number by a text that reads back to its nearest floating point number,
in the fewest digits or in all digits of an integral number, and fails for the integers alone that
have no finite one. -/
theorem geometryText_lossless (number : Number) :
    (∀ fault, number.geometryText = .error fault ↔
      fault = .integerTooLarge ∧ number.RoundsToInfinity) ∧
    (∀ value, number = .integer value →
      (number.RoundsToInfinity ↔ 2 ^ 1024 ≤ value.natAbs + 2 ^ 970)) ∧
    (∀ nearest, number.toDouble = .ok nearest → ∃ text, number.geometryText = .ok text ∧
      nearest.IsPlainText text ∧ text.Denotes number) ∧
    ∀ (other : Number) text, number.geometryText = .ok text → other.geometryText = .ok text →
      ∃ nearest otherNearest, number.toDouble = .ok nearest ∧
        other.toDouble = .ok otherNearest ∧ Binary64.Same nearest otherNearest := by
  refine ⟨fun fault => geometryText_error_iff, ?_, ?_, ?_⟩
  · rintro value rfl
    exact roundsToInfinity_iff
  · intro nearest converts
    exact ⟨_, number.geometryText_ok nearest converts, nearest.writtenPlain_isPlainText,
      number.geometryText_denotes nearest converts⟩
  · intro other text written otherWritten
    exact geometryText_same written otherWritten

end Number

end QuadrantChart
