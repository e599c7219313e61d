/-
This file says which number the text of a geometry denotes.
-/

import QuadrantChart.Diagram.Cell
import QuadrantChart.Proofs.Binary64.RoundTrip
import QuadrantChart.Proofs.Result

namespace QuadrantChart

namespace Number

/-- A number that has a nearest floating point number. Only large integers have none. -/
def Convertible (number : Number) : Prop :=
  ∃ nearest, number.toDouble = .ok nearest

instance (number : Number) : Decidable number.Convertible :=
  decidable_of_iff (number.toDouble.isOk = true) Result.isOk_iff

/-- Numbers of exactly equal value, where `nan` is equal to itself. -/
def Same (left right : Number) : Prop :=
  (left.isNan = true ∧ right.isNan = true) ∨ (left.le right = true ∧ right.le left = true)

theorem same_double (left right : Binary64) :
    Same (.double left) (.double right) ↔ Binary64.Same left right := by
  have nan (value : Binary64) : value.isNan = true ↔ value = .nan := by
    cases value <;> simp [Binary64.isNan]
  rw [Binary64.same_iff]
  simp only [Same, isNan, le, lt, nan, Binary64.eq, Binary64.le, Bool.and_eq_true]

theorem convertible_or_tooLarge (number : Number) :
    number.Convertible ∨ number.toDouble = .error .integerTooLarge := by
  cases number with
  | double value => exact .inl ⟨value, rfl⟩
  | integer value =>
    rw [Convertible, toDouble]
    generalize Binary64.ofQuotient (value < 0) value.natAbs 1 = result
    cases result with
    | nan => exact .inr rfl
    | infinite negative => exact .inr rfl
    | finite negative units representable => exact .inl ⟨_, rfl⟩

/-- A signed count of units is that of its own sign and magnitude. -/
theorem signedUnits_of_product (value : Int) (unit : Nat) (negative : Bool) (units : Nat)
    (equal : value * unit = Binary64.signedUnits negative units) :
    value.natAbs * unit = units ∧ Binary64.signedUnits (value < 0) units = value * unit := by
  have magnitude : value.natAbs * unit = units := by
    have absolute := congrArg Int.natAbs equal
    rw [Int.natAbs_mul, Int.natAbs_natCast] at absolute
    cases negative <;> simpa [Binary64.signedUnits] using absolute
  refine ⟨magnitude, ?_⟩
  rw [← magnitude]
  by_cases below : value < 0
  · have absolute : (value.natAbs : Int) = -value := by omega
    simp only [Binary64.signedUnits, below, decide_true, if_true, Int.natCast_mul, absolute,
      Int.neg_mul, Int.neg_neg]
  · have absolute : (value.natAbs : Int) = value := by omega
    simp [Binary64.signedUnits, below, absolute]

/-- An integer that some floating point number equals is nearest to that number. -/
theorem toDouble_exact (value : Int) (units : Nat) (representable : Binary64.Representable units)
    (magnitude : value.natAbs * Binary64.unitsPerOne = units) :
    toDouble (.integer value) = .ok (.finite (value < 0) units representable) := by
  have kept := Binary64.roundedQuotient_exact units 1 (by decide) representable.2
  rw [Nat.mul_one] at kept
  have rounded : Binary64.ofQuotient (value < 0) value.natAbs 1 =
      .finite (value < 0) units representable := by
    rw [Binary64.ofQuotient, magnitude]
    exact Binary64.ofUnits_eq _ _ _ _ representable kept
  rw [toDouble, rounded, requireFinite]

theorem same_integer_finite (value : Int) (negative : Bool) (units : Nat)
    (representable : Binary64.Representable units) :
    Same (.integer value) (.double (.finite negative units representable)) ↔
      value * Binary64.unitsPerOne = Binary64.signedUnits negative units := by
  simp only [Same, isNan, le, lt, integerLt, ltInteger, Binary64.isNan]
  generalize Binary64.signedUnits negative units = right
  generalize value * (Binary64.unitsPerOne : Int) = left
  simp
  omega

theorem same_symm (left right : Number) (same : Same left right) : Same right left :=
  same.imp And.symm And.symm

/-- A number that some floating point number equals. -/
def Exact (number : Number) : Prop :=
  ∃ exact, Same number (.double exact)

theorem Exact.toDouble {value : Int} (exact : (integer value).Exact) :
    ∃ units representable,
      (integer value).toDouble = .ok (.finite (value < 0) units representable) ∧
        Binary64.signedUnits (value < 0) units = value * Binary64.unitsPerOne := by
  obtain ⟨exact, same⟩ := exact
  cases exact with
  | nan => simp [Same, isNan, le, Binary64.isNan] at same
  | infinite negative =>
    cases negative <;> simp [Same, isNan, le, lt, integerLt, ltInteger] at same
  | finite negative units representable =>
    obtain ⟨magnitude, sign⟩ := signedUnits_of_product value _ negative units
      ((same_integer_finite value negative units representable).1 same)
    exact ⟨units, representable, toDouble_exact value units representable magnitude, sign⟩

/-- Where a number has an equal floating point number, it is equal to its nearest one. -/
theorem same_nearest (number : Number) (exact nearest : Binary64)
    (equal : Same number (.double exact)) (converts : number.toDouble = .ok nearest) :
    Same (.double nearest) number := by
  cases number with
  | double value =>
    cases converts
    exact (same_double nearest nearest).2 (Binary64.same_refl nearest)
  | integer value =>
    obtain ⟨units, representable, finite, sign⟩ := Exact.toDouble ⟨exact, equal⟩
    cases finite.symm.trans converts
    exact same_symm _ _ ((same_integer_finite value _ units representable).2 sign.symm)

end Number

/-- A text reads as the nearest floating point number to a number, and as the number itself when
any floating point number is equal to it. -/
def Text.Denotes (text : Text) (number : Number) : Prop :=
  ∃ read nearest, Numeral.read? text = some read ∧ number.toDouble = .ok nearest ∧
    Binary64.Same read nearest ∧
    ((∃ exact, Number.Same number (.double exact)) → Number.Same (.double read) number)

namespace Number

theorem geometryText_ok (number : Number) (nearest : Binary64)
    (converts : number.toDouble = .ok nearest) :
    number.geometryText = .ok nearest.writtenPlain := by
  rw [geometryText, converts]
  rfl

theorem geometryText_error (number : Number) (fault : Fault)
    (fails : number.toDouble = .error fault) : number.geometryText = .error fault := by
  rw [geometryText, fails]
  rfl

theorem same_trans (first second : Binary64) (number : Number)
    (leading : Binary64.Same first second) (trailing : Same (.double second) number) :
    Same (.double first) number := by
  cases number with
  | double value =>
    exact (same_double first value).2
      (first.same_trans second value leading ((same_double second value).1 trailing))
  | integer value =>
    cases second with
    | nan => simp [Same, isNan, le, Binary64.isNan] at trailing
    | infinite negative =>
      cases negative <;> simp [Same, isNan, le, lt, integerLt, ltInteger] at trailing
    | finite negative units representable =>
      cases first with
      | nan => cases leading
      | infinite other => cases leading
      | finite other otherUnits otherRepresentable =>
        have order := (same_integer_finite value negative units representable).1
          (same_symm _ _ trailing)
        exact same_symm _ _ ((same_integer_finite value other otherUnits otherRepresentable).2
          (order.trans leading.symm))

theorem geometryText_denotes (number : Number) (nearest : Binary64)
    (converts : number.toDouble = .ok nearest) : nearest.writtenPlain.Denotes number := by
  obtain ⟨read, reads, same⟩ := nearest.read_writtenPlain
  refine ⟨read, nearest, reads, converts, same, ?_⟩
  rintro ⟨exact, equal⟩
  exact same_trans read nearest number same (same_nearest number exact nearest equal converts)

end Number

end QuadrantChart
