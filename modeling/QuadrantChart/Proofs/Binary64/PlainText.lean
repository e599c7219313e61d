/-
This file describes the texts of finite numbers: integral ones show all their digits, and all others
the fewest digits.
-/

import QuadrantChart.Proofs.Binary64.FewestDigits
import QuadrantChart.Proofs.Binary64.RoundTrip

namespace QuadrantChart

namespace Text

/-- Decimal digits without a zero in front of others. -/
structure IsWhole (text : Text) : Prop where
  nonempty : text ≠ []
  digits : ∀ char ∈ text, char.isDigit = true
  leading : text.head? = some '0' → text = ['0']

/-- Only zero begins with a zero. -/
theorem ofNat_leading {value : Nat} (zero : (ofNat value).head? = some '0') : value = 0 := by
  fun_induction ofNat value with
  | case1 value small =>
    have digits : ∀ digit < 10, digitChar digit = '0' → digit = 0 := by decide
    exact digits value small (Option.some.inj zero)
  | case2 value large inductionHypothesis =>
    rw [List.head?_append_of_ne_nil _ (ofNat_nonempty _)] at zero
    have none := inductionHypothesis zero
    omega

theorem ofNat_zero : ofNat 0 = ['0'] := by
  unfold ofNat
  rfl

theorem ofNat_isWhole (value : Nat) : (ofNat value).IsWhole where
  nonempty := ofNat_nonempty value
  digits := ofNat_isDigit value
  leading zero := by rw [ofNat_leading zero, ofNat_zero]

end Text

namespace Binary64

variable {units : Nat} {negative : Bool}

/-- A decimal with places is read back exactly from its text. -/
theorem decimal_writtenDecimal {decimal : Decimal} (places : decimal.exponent < 0) :
    Numeral.decimal? (writtenDecimal decimal) = some decimal := by
  have nonempty := Text.ofNat_nonempty decimal.digits
  have all := Text.ofNat_isDigit decimal.digits
  have value := Numeral.digitsValue_ofNat decimal.digits
  obtain ⟨digits, exponent⟩ := decimal
  unfold writtenDecimal
  dsimp only at *
  generalize Text.ofNat digits = text at *
  subst value
  split_ifs with near
  · unfold writtenPositional
    split_ifs with low high
    · rw [Numeral.decimal_belowOne text _ low all, Int.add_sub_cancel]
    · omega
    · rw [Numeral.decimal_inside text _ (by omega) (by omega) all, Int.add_sub_cancel]
  · rw [Numeral.decimal_scientific text _ nonempty all, Int.sub_add_cancel, Int.add_sub_cancel]

/-- A text of digits and a point has no exponent. -/
theorem writtenPositional_noExponent {digits : Text} (position : Int)
    (all : ∀ char ∈ digits, char.isDigit = true) : 'e' ∉ writtenPositional digits position := by
  have clean {part : Text} (each : ∀ char ∈ part, char.isDigit = true) : 'e' ∉ part :=
    fun member => absurd (each _ member) (by decide)
  have zeros (count : Nat) : 'e' ∉ List.replicate count '0' := clean (Numeral.zeros_digits count)
  unfold writtenPositional
  split_ifs
  · simp [clean all]
  · simp [clean all]
  · have inside : 'e' ∉ digits := clean all
    simp only [List.mem_append, List.mem_cons, not_or]
    exact ⟨mt List.mem_of_mem_take inside, by decide, mt List.mem_of_mem_drop inside⟩

/-- Few digits with places are written with an exponent only when they are far behind the point. -/
theorem exponent_position {decimal : Decimal} (places : decimal.exponent < 0)
    (few : decimal.length ≤ 17) (exponent : 'e' ∈ writtenDecimal decimal) :
    decimal.exponent + decimal.length ≤ -4 := by
  unfold writtenDecimal at exponent
  dsimp only at exponent
  rw [Decimal.length] at few ⊢
  split_ifs at exponent with near
  · exact absurd exponent (writtenPositional_noExponent _ (Text.ofNat_isDigit _))
  · omega

/-- A magnitude that is not integral needs places. -/
theorem shortestDecimal_places (representable : Representable units)
    (part : ¬unitsPerOne ∣ units) : (shortestDecimal units).exponent < 0 := by
  refine Int.lt_of_not_ge fun whole => part ?_
  rw [← decimalUnits_shortestDecimal units representable]
  exact decimalUnits_whole whole

theorem shortestDecimal_tenThousandth :
    shortestDecimal (decimalUnits ⟨1, -4⟩) = ⟨1, -4⟩ := by
  decide +kernel

/-- Only magnitudes below a ten-thousandth are written with an exponent. -/
theorem exponent_tiny (representable : Representable units) (part : ¬unitsPerOne ∣ units)
    (exponent : 'e' ∈ writtenDecimal (shortestDecimal units)) :
    magnitude units < 10 ^ (-4 : Int) := by
  have nonzero : units ≠ 0 := fun zero => part (zero ▸ Nat.dvd_zero _)
  have position := exponent_position (shortestDecimal_places representable part)
    (shortestDecimal_length representable nonzero) exponent
  have below : (shortestDecimal units).value < 10 ^ (-4 : Int) := by
    have digits : ((shortestDecimal units).digits : ℚ) < 10 ^ (shortestDecimal units).length := by
      exact_mod_cast Text.lt_ten_pow_length _
    calc
      (shortestDecimal units).value <
          10 ^ (shortestDecimal units).length * 10 ^ (shortestDecimal units).exponent :=
        mul_lt_mul_of_pos_right digits (zpow_pos (by norm_num) _)
      _ = 10 ^ ((shortestDecimal units).length + (shortestDecimal units).exponent) := by
        rw [zpow_add₀ (by norm_num), zpow_natCast]
      _ ≤ 10 ^ (-4 : Int) := zpow_le_zpow_right₀ (by norm_num) (by omega)
  -- Otherwise a ten-thousandth reads as the magnitude, and it is the shortest decimal itself.
  refine lt_of_not_ge fun above => ?_
  have same : decimalUnits ⟨1, -4⟩ = units := by
    refine reads_below representable (decimalUnits_shortestDecimal units representable) ?_ ?_
    · exact below.le.trans (Decimal.value_one (-4)).ge
    · exact (Decimal.value_one (-4)).trans_le above
  rw [← same, shortestDecimal_tenThousandth, Decimal.value_one] at below
  exact lt_irrefl _ below

/-- The text of a finite number: it reads back to the number, shows all digits of an integral number
and the fewest digits of any other one, and has an exponent only for a tiny one. -/
structure IsFiniteText (negative : Bool) (units : Nat) (representable : Representable units)
    (text : Text) : Prop where
  reads : ∃ read, Numeral.read? text = some read ∧
    Same read (.finite negative units representable)
  zero : units = 0 → text = ['0']
  integral : unitsPerOne ∣ units → units ≠ 0 → ∃ digits : Text, digits.IsWhole ∧
    text = (if negative then ['-'] else []) ++ digits ∧
    Numeral.digitsValue digits * unitsPerOne = units
  fewest : ¬unitsPerOne ∣ units → ∃ magnitude decimal,
    text = (if negative then ['-'] else []) ++ magnitude ∧
    Numeral.decimal? magnitude = some decimal ∧
    ofDecimal negative decimal = .finite negative units representable ∧
    ∀ other, ofDecimal negative other = .finite negative units representable →
      decimal.length ≤ other.length
  exponent : 'e' ∈ text → ¬unitsPerOne ∣ units ∧ magnitude units < 10 ^ (-4 : Int)

theorem writtenPlain_zero (negative : Bool) (representable : Representable 0) :
    writtenPlain (.finite negative 0 representable) = ['0'] := by
  cases negative <;> simp [writtenPlain, Text.ofInt, signedUnits, Text.ofNat_zero]

theorem integral_noExponent (negative : Bool) (representable : Representable units)
    (whole : unitsPerOne ∣ units) :
    'e' ∉ writtenPlain (.finite negative units representable) := by
  have clean : 'e' ∉ Text.ofNat (units / unitsPerOne) := fun member =>
    absurd (Text.ofNat_isDigit _ _ member) (by decide)
  by_cases zero : units = 0
  · subst zero
    rw [writtenPlain_zero]
    decide
  · rw [writtenPlain_integral negative units representable zero (Nat.mod_eq_zero_of_dvd whole)]
    cases negative <;> simp [clean]

/-- A number that is not integral is written as its shortest decimal. -/
theorem writtenPlain_part (negative : Bool) (representable : Representable units)
    (part : ¬unitsPerOne ∣ units) :
    writtenPlain (.finite negative units representable) =
      (if negative then ['-'] else []) ++ writtenDecimal (shortestDecimal units) := by
  have nonzero : units ≠ 0 := fun zero => part (zero ▸ Nat.dvd_zero _)
  rw [writtenPlain, if_neg (mt Nat.dvd_of_mod_eq_zero part), written, writtenMagnitude,
    if_neg nonzero]

theorem writtenPlain_isFiniteText (negative : Bool) (units : Nat)
    (representable : Representable units) :
    IsFiniteText negative units representable
      (writtenPlain (.finite negative units representable)) where
  reads := read_writtenPlain (.finite negative units representable)
  zero none := by
    subst none
    exact writtenPlain_zero negative representable
  integral whole nonzero := by
    refine ⟨Text.ofNat (units / unitsPerOne), Text.ofNat_isWhole _, ?_, ?_⟩
    · exact writtenPlain_integral negative units representable nonzero
        (Nat.mod_eq_zero_of_dvd whole)
    · rw [Numeral.digitsValue_ofNat, Nat.div_mul_cancel whole]
  fewest part := by
    have nonzero : units ≠ 0 := fun zero => part (zero ▸ Nat.dvd_zero _)
    refine ⟨_, shortestDecimal units, writtenPlain_part negative representable part,
      decimal_writtenDecimal (shortestDecimal_places representable part), ?_, ?_⟩
    · exact ofDecimal_eq negative _ units nonzero representable
        (decimalUnits_shortestDecimal units representable)
    · intro other same
      exact shortestDecimal_fewest representable nonzero (ofDecimal_units nonzero same)
  exponent mark := by
    by_cases whole : unitsPerOne ∣ units
    · exact absurd mark (integral_noExponent negative representable whole)
    · refine ⟨whole, exponent_tiny representable whole ?_⟩
      rw [writtenPlain_part negative representable whole] at mark
      rcases List.mem_append.1 mark with sign | digits
      · cases negative with
        | false => cases sign
        | true => exact absurd sign (by decide)
      · exact digits

/-- The text of a number, where all that is not finite is a word. -/
def IsPlainText : Binary64 → Text → Prop
  | .nan, text => text = "nan".toList
  | .infinite negative, text => text = (if negative then "-inf" else "inf").toList
  | .finite negative units representable, text => IsFiniteText negative units representable text

theorem writtenPlain_isPlainText (value : Binary64) : value.IsPlainText value.writtenPlain := by
  cases value with
  | nan => rfl
  | infinite negative => rfl
  | finite negative units representable =>
    exact writtenPlain_isFiniteText negative units representable

end Binary64

end QuadrantChart
