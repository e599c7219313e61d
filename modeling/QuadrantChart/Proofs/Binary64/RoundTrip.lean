/-
This file proves that both ways to write a number lose nothing, except for the sign of zero where
integral numbers are written without a point.
-/

import QuadrantChart.Proofs.Binary64.Numeral

namespace QuadrantChart

namespace Numeral

/-- The shape of a written magnitude: a digit comes first, and no character is left out. -/
structure IsMagnitude (text : Text) : Prop where
  startsWithDigit : ∃ first rest, text = first :: rest ∧ first.isDigit = true
  plain : ∀ char ∈ text, char ∈ alphabet

theorem IsMagnitude.ofDigits (digits rest : Text) (nonempty : digits ≠ [])
    (all : ∀ char ∈ digits, char.isDigit = true) (plain : ∀ char ∈ rest, char ∈ alphabet) :
    IsMagnitude (digits ++ rest) where
  startsWithDigit := by
    obtain ⟨first, others, rfl⟩ := List.exists_cons_of_ne_nil nonempty
    exact ⟨first, others ++ rest, rfl, all first List.mem_cons_self⟩
  plain := by
    intro char member
    rcases List.mem_append.1 member with digit | other
    · exact digit_mem_alphabet char (all char digit)
    · exact plain char other

theorem digits_plain (digits : Text) (all : ∀ char ∈ digits, char.isDigit = true) :
    ∀ char ∈ digits, char ∈ alphabet :=
  fun char member => digit_mem_alphabet char (all char member)

theorem cons_plain (first : Char) (rest : Text) (firstPlain : first ∈ alphabet)
    (plain : ∀ char ∈ rest, char ∈ alphabet) : ∀ char ∈ first :: rest, char ∈ alphabet :=
  List.forall_mem_cons.2 ⟨firstPlain, plain⟩

theorem zero_plain : ∀ char ∈ ['.', '0'], char ∈ alphabet :=
  cons_plain '.' _ (by decide) (cons_plain '0' _ (by decide) fun char none => by cases none)

theorem all_plain {text : Text} (plain : text.all (alphabet.contains ·) = true) :
    ∀ char ∈ text, char ∈ alphabet := by
  simpa using plain

theorem isMagnitude_positional (digits : Text) (position : Int) (nonempty : digits ≠ [])
    (all : ∀ char ∈ digits, char.isDigit = true) :
    IsMagnitude (Binary64.writtenPositional digits position) := by
  unfold Binary64.writtenPositional
  split
  · have padding : ∀ char ∈ List.replicate (-position).toNat '0' ++ digits, char ∈ alphabet := by
      intro char member
      rcases List.mem_append.1 member with zero | digit
      · exact digit_mem_alphabet char (zeros_digits _ char zero)
      · exact digits_plain digits all char digit
    exact .ofDigits ['0'] _ (by simp) (by simp) (cons_plain '.' _ (by decide) padding)
  · split
    · rw [List.append_assoc]
      apply IsMagnitude.ofDigits digits _ nonempty all
      intro char member
      rcases List.mem_append.1 member with zero | ending
      · exact digit_mem_alphabet char (zeros_digits _ char zero)
      · exact zero_plain char ending
    · apply IsMagnitude.ofDigits (digits.take position.toNat)
      · rw [ne_eq, List.take_eq_nil_iff, not_or]
        exact ⟨by omega, nonempty⟩
      · exact fun char member => all char (List.mem_of_mem_take member)
      · exact cons_plain '.' _ (by decide)
          (digits_plain _ fun char member => all char (List.mem_of_mem_drop member))

theorem isMagnitude_scientific (digits : Text) (exponent : Int) (nonempty : digits ≠ [])
    (all : ∀ char ∈ digits, char.isDigit = true) :
    IsMagnitude (Binary64.writtenScientific digits exponent) := by
  have sign : (if exponent < 0 then '-' else '+') ∈ alphabet := by
    split <;> decide
  have mark : ∀ char ∈ 'e' :: Binary64.writtenExponent exponent, char ∈ alphabet :=
    cons_plain 'e' _ (by decide)
      (cons_plain _ _ sign (digits_plain _ (Text.padded_isDigit 2 exponent.natAbs)))
  match digits with
  | [] => exact absurd rfl nonempty
  | [digit] => exact .ofDigits [digit] _ nonempty all mark
  | digit :: next :: rest =>
    apply IsMagnitude.ofDigits [digit] _ (by simp) (by simp [all digit List.mem_cons_self])
    apply cons_plain '.' _ (by decide)
    intro char member
    rcases List.mem_append.1 member with other | marked
    · exact digit_mem_alphabet char (all char (List.mem_cons_of_mem _ other))
    · exact mark char marked

theorem isMagnitude_decimal (decimal : Decimal) :
    IsMagnitude (Binary64.writtenDecimal decimal) := by
  have nonempty := Text.ofNat_nonempty decimal.digits
  have all := Text.ofNat_isDigit decimal.digits
  unfold Binary64.writtenDecimal
  dsimp only
  split
  · exact isMagnitude_positional _ _ nonempty all
  · exact isMagnitude_scientific _ _ nonempty all

/-- A text that begins like none of the three words is a decimal or nothing. -/
theorem unsigned_decimal (negative : Bool) (first : Char) (rest : Text)
    (notI : first.toLower ≠ 'i') (notN : first.toLower ≠ 'n') :
    unsigned? negative (first :: rest) =
      (decimal? (first :: rest)).map (Binary64.ofDecimal negative) := by
  have notInf : (first :: rest).map Char.toLower ≠ "inf".toList := fun same =>
    notI (List.cons.inj same).1
  have notInfinity : (first :: rest).map Char.toLower ≠ "infinity".toList := fun same =>
    notI (List.cons.inj same).1
  have notNan : (first :: rest).map Char.toLower ≠ "nan".toList := fun same =>
    notN (List.cons.inj same).1
  simp only [unsigned?, notInf, notInfinity, notNan, or_self, if_false]

theorem digit_letters (char : Char) (digit : char.isDigit = true) :
    char.toLower ≠ 'i' ∧ char.toLower ≠ 'n' := by
  have letters : alphabet.all (fun char => char.isDigit = true →
      char.toLower ≠ 'i' ∧ char.toLower ≠ 'n') = true := by decide
  exact of_decide_eq_true (List.all_eq_true.1 letters char (digit_mem_alphabet char digit)) digit

theorem splitSign_unsigned (first : Char) (rest : Text) (notMinus : first ≠ '-')
    (notPlus : first ≠ '+') : splitSign (first :: rest) = (false, first :: rest) := by
  unfold splitSign
  split
  · rename_i same
    exact absurd (List.cons.inj same).1 notMinus
  · rename_i same
    exact absurd (List.cons.inj same).1 notPlus
  · rfl

/-- A magnitude reads with its sign as the number nearest to its decimal. -/
theorem read_magnitude (negative : Bool) (text : Text) (decimal : Decimal)
    (magnitude : IsMagnitude text) (reads : decimal? text = some decimal) :
    read? ((if negative then ['-'] else []) ++ text) =
      some (Binary64.ofDecimal negative decimal) := by
  obtain ⟨first, rest, rfl, digit⟩ := magnitude.startsWithDigit
  obtain ⟨notI, notN⟩ := digit_letters first digit
  have unsigned := unsigned_decimal negative first rest notI notN
  rw [reads, Option.map_some] at unsigned
  cases negative with
  | true =>
    rw [if_pos rfl, List.singleton_append,
      read_plain _ (cons_plain '-' _ (by decide) magnitude.plain)]
    exact unsigned
  | false =>
    have noSign : splitSign (first :: rest) = (false, first :: rest) := by
      apply splitSign_unsigned
      · rintro rfl
        cases digit
      · rintro rfl
        cases digit
    rw [read_plain _ (by simpa using magnitude.plain)]
    simp only [Bool.false_eq_true, if_false, List.nil_append, noSign]
    exact unsigned

end Numeral

namespace Binary64

theorem read_written_finite (negative : Bool) (units : Nat) (representable : Representable units) :
    Numeral.read? (written (.finite negative units representable)) =
      some (.finite negative units representable) := by
  simp only [written, writtenMagnitude]
  by_cases zero : units = 0
  · subst zero
    have magnitude : Numeral.IsMagnitude "0.0".toList :=
      .ofDigits ['0'] ['.', '0'] (by simp) (by simp) Numeral.zero_plain
    rw [if_pos rfl, Numeral.read_magnitude negative _ ⟨0, -1⟩ magnitude (by decide)]
    rw [ofDecimal_zero negative _ rfl representable]
  · obtain ⟨read, reads, same⟩ := Numeral.decimal_written (shortestDecimal units)
    have near : decimalUnits read = units :=
      (decimalUnits_same _ _ same).trans (decimalUnits_shortestDecimal units representable)
    rw [if_neg zero, Numeral.read_magnitude negative _ read (Numeral.isMagnitude_decimal _) reads,
      ofDecimal_eq negative read units zero representable near]

/-- The text of a number reads back to exactly the number. -/
theorem read_written (value : Binary64) : Numeral.read? value.written = some value := by
  match value with
  | .nan => decide
  | .infinite true => decide
  | .infinite false => decide
  | .finite negative units representable => exact read_written_finite negative units representable

/-- Numbers of equal value, where `nan` is equal to itself. -/
def Same : Binary64 → Binary64 → Prop
  | .nan, .nan => True
  | .infinite left, .infinite right => left = right
  | .finite left leftUnits _, .finite right rightUnits _ =>
    signedUnits left leftUnits = signedUnits right rightUnits
  | _, _ => False

theorem same_iff (left right : Binary64) :
    Same left right ↔ (left = .nan ∧ right = .nan) ∨ left.eq right = true := by
  cases left <;> cases right <;> simp [Same, eq, le, lt, isNan]
  · rename_i left right
    cases left <;> cases right <;> decide
  · omega

instance (left right : Binary64) : Decidable (Same left right) :=
  decidable_of_iff _ (same_iff left right).symm

theorem same_refl (value : Binary64) : Same value value := by
  cases value <;> simp [Same]

theorem same_symm {left right : Binary64} (same : Same left right) : Same right left := by
  cases left <;> cases right <;> simp [Same] at same ⊢
  · exact same.symm
  · exact same.symm

theorem same_trans (first second third : Binary64) (leading : Same first second)
    (trailing : Same second third) : Same first third := by
  cases first <;> cases second <;> cases third <;> simp [Same] at leading trailing ⊢
  · exact leading.trans trailing
  · exact leading.trans trailing

/-- The digits of a natural number are a magnitude of that value. -/
theorem whole_magnitude (value : Nat) : Numeral.IsMagnitude (Text.ofNat value) ∧
    Numeral.decimal? (Text.ofNat value) = some ⟨value, 0⟩ := by
  have digits := Text.ofNat_isDigit value
  have nonempty := Text.ofNat_nonempty value
  have magnitude := Numeral.IsMagnitude.ofDigits _ [] nonempty digits (by simp)
  have read := Numeral.decimal_whole _ [] nonempty digits Numeral.endsDigits_nil (by simp)
  rw [List.append_nil] at magnitude
  rw [List.append_nil, Numeral.digitsValue_ofNat] at read
  exact ⟨magnitude, read⟩

/-- Both zeros are written as zero without a sign. -/
theorem read_writtenPlain_zero (negative : Bool) (representable : Representable 0) :
    Numeral.read? (writtenPlain (.finite negative 0 representable)) =
      some (.finite false 0 representable) := by
  have text : writtenPlain (.finite negative 0 representable) = Text.ofNat 0 := by
    cases negative <;> simp [writtenPlain, Text.ofInt, signedUnits]
  have read := Numeral.read_magnitude false _ _ (whole_magnitude 0).1 (whole_magnitude 0).2
  rw [text, ← ofDecimal_zero false ⟨0, 0⟩ rfl representable]
  exact read

theorem writtenPlain_integral (negative : Bool) (units : Nat)
    (representable : Representable units) (nonzero : units ≠ 0)
    (integral : units % unitsPerOne = 0) :
    writtenPlain (.finite negative units representable) =
      (if negative then ['-'] else []) ++ Text.ofNat (units / unitsPerOne) := by
  have positive : 0 < units / unitsPerOne :=
    Nat.div_pos (Nat.le_of_dvd (Nat.pos_of_ne_zero nonzero) (Nat.dvd_of_mod_eq_zero integral))
      unitsPerOne_positive
  rw [writtenPlain, if_pos integral]
  generalize units / unitsPerOne = whole at positive
  cases negative with
  | true => simp [Text.ofInt, signedUnits, positive]
  | false => simp [Text.ofInt, signedUnits]

theorem writtenMagnitude_plain (units : Nat) :
    ∀ char ∈ writtenMagnitude units, char ∈ Numeral.alphabet := by
  rw [writtenMagnitude]
  split
  · exact Numeral.all_plain (by decide)
  · exact (Numeral.isMagnitude_decimal _).plain

/-- Numbers are written in the characters of numerals. -/
theorem writtenPlain_plain (value : Binary64) :
    ∀ char ∈ value.writtenPlain, char ∈ Numeral.alphabet := by
  have whole (value : Nat) : ∀ char ∈ Text.ofNat value, char ∈ Numeral.alphabet :=
    Numeral.digits_plain _ (Text.ofNat_isDigit value)
  match value with
  | .nan => exact Numeral.all_plain (by decide)
  | .infinite true => exact Numeral.all_plain (by decide)
  | .infinite false => exact Numeral.all_plain (by decide)
  | .finite negative units representable =>
    by_cases integral : units % unitsPerOne = 0
    · rw [writtenPlain, if_pos integral, Text.ofInt]
      split
      · exact Numeral.cons_plain '-' _ (by decide) (whole _)
      · exact whole _
    · rw [writtenPlain, if_neg integral]
      cases negative with
      | true => exact Numeral.cons_plain '-' _ (by decide) (writtenMagnitude_plain units)
      | false => exact writtenMagnitude_plain units

theorem read_writtenPlain_integral (negative : Bool) (units : Nat)
    (representable : Representable units) (nonzero : units ≠ 0)
    (integral : units % unitsPerOne = 0) :
    Numeral.read? (writtenPlain (.finite negative units representable)) =
      some (.finite negative units representable) := by
  have whole : units / unitsPerOne * unitsPerOne = units :=
    Nat.div_mul_cancel (Nat.dvd_of_mod_eq_zero integral)
  have kept := roundedQuotient_exact units 1 (by decide) representable.2
  rw [Nat.mul_one] at kept
  have near : decimalUnits ⟨units / unitsPerOne, 0⟩ = units := by
    rw [decimalUnits_eq, Int.toNat_zero, Int.neg_zero, Int.toNat_zero, Nat.pow_zero, Nat.mul_one,
      whole, kept]
  obtain ⟨magnitude, reads⟩ := whole_magnitude (units / unitsPerOne)
  rw [writtenPlain_integral negative units representable nonzero integral,
    Numeral.read_magnitude negative _ _ magnitude reads,
    ofDecimal_eq negative _ _ nonzero representable near]

/-- The text that shows integral numbers without a point reads back to the value of the number. -/
theorem read_writtenPlain (value : Binary64) :
    ∃ read, Numeral.read? value.writtenPlain = some read ∧ Same read value := by
  match value with
  | .nan => exact ⟨_, read_written .nan, same_refl _⟩
  | .infinite negative => exact ⟨_, read_written (.infinite negative), same_refl _⟩
  | .finite negative units representable =>
    by_cases zero : units = 0
    · subst zero
      refine ⟨_, read_writtenPlain_zero negative representable, ?_⟩
      cases negative <;> simp [Same, signedUnits]
    · by_cases integral : units % unitsPerOne = 0
      · exact ⟨_, read_writtenPlain_integral negative units representable zero integral,
          same_refl _⟩
      · refine ⟨_, ?_, same_refl _⟩
        rw [writtenPlain, if_neg integral]
        exact read_written _

end Binary64

end QuadrantChart
