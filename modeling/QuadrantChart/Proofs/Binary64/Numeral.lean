/-
This file proves that the text of a number reads back to the number.
-/

import QuadrantChart.Binary64.Written
import QuadrantChart.Proofs.Binary64.Shortest
import QuadrantChart.Proofs.Text.Digits

namespace QuadrantChart

theorem Text.trimBy_none (kind : Char → Bool) (text : Text)
    (none : ∀ char ∈ text, kind char = false) : trimBy kind text = text := by
  have kept (part : Text) (clean : ∀ char ∈ part, kind char = false) :
      part.dropWhile kind = part := by
    cases part with
    | nil => rfl
    | cons first rest => simp [clean first List.mem_cons_self]
  rw [trimBy, kept text none, kept text.reverse fun char member =>
    none char (List.mem_reverse.1 member), List.reverse_reverse]

namespace Numeral

/-- The characters of written numbers. -/
def alphabet : Text :=
  "0123456789-+.einfa".toList

theorem alphabet_plain (char : Char) (member : char ∈ alphabet) :
    isSurrounding char = false ∧ plainDigit char = char ∧ char ≠ '_' := by
  have every : alphabet.all (fun char =>
      isSurrounding char = false ∧ plainDigit char = char ∧ char ≠ '_') = true := by decide
  exact of_decide_eq_true (List.all_eq_true.1 every char member)

theorem digit_mem_alphabet (char : Char) (digit : char.isDigit = true) : char ∈ alphabet := by
  simp only [Char.isDigit, Bool.and_eq_true, decide_eq_true_eq] at digit
  have lower : 48 ≤ char.toNat := digit.1
  have upper : char.toNat ≤ 57 := digit.2
  have code : char = Char.ofNat char.toNat := (Char.ofNat_toNat char).symm
  rw [code]
  generalize char.toNat = value at lower upper
  have every : ∀ number ≤ 57, 48 ≤ number → Char.ofNat number ∈ alphabet := by decide
  exact every value upper lower

theorem withoutUnderscores_none (text : Text) (none : ∀ char ∈ text, char ≠ '_')
    (afterDigit : Bool) : withoutUnderscores? afterDigit text = some text := by
  induction text generalizing afterDigit with
  | nil => rfl
  | cons first rest inductionHypothesis =>
    have remaining := inductionHypothesis fun char member =>
      none char (List.mem_cons_of_mem _ member)
    rw [withoutUnderscores?, if_neg (none first List.mem_cons_self), remaining]
    rfl

/-- In a text of these characters nothing is left out or replaced. -/
theorem read_plain (text : Text) (plain : ∀ char ∈ text, char ∈ alphabet) :
    read? text = unsigned? (splitSign text).1 (splitSign text).2 := by
  have trimmed : Text.trimBy isSurrounding text = text :=
    Text.trimBy_none _ _ fun char member => (alphabet_plain char (plain char member)).1
  have same : text.map plainDigit = text :=
    (List.map_congr_left fun char member => (alphabet_plain char (plain char member)).2.1).trans
      (List.map_id text)
  have kept := withoutUnderscores_none text (fun char member =>
    (alphabet_plain char (plain char member)).2.2) false
  simp [read?, trimmed, same, kept]

/-- A text that does not go on with a digit. -/
def EndsDigits (text : Text) : Prop :=
  ∀ char ∈ text.head?, char.isDigit = false

theorem take_digits (digits rest : Text) (all : ∀ char ∈ digits, char.isDigit = true)
    (stop : EndsDigits rest) :
    (digits ++ rest).takeWhile Char.isDigit = digits ∧
      (digits ++ rest).dropWhile Char.isDigit = rest := by
  rw [List.takeWhile_append_of_pos all, List.dropWhile_append_of_pos all]
  cases rest with
  | nil => simp
  | cons first rest => simp [stop first rfl]

/-- A numeral with a point. -/
theorem decimal_fraction (whole fraction rest : Text) (nonempty : whole ≠ [] ∨ fraction ≠ [])
    (wholeDigits : ∀ char ∈ whole, char.isDigit = true)
    (fractionDigits : ∀ char ∈ fraction, char.isDigit = true) (stop : EndsDigits rest) :
    decimal? (whole ++ '.' :: (fraction ++ rest)) = (exponent? rest).map fun exponent =>
      ⟨digitsValue (whole ++ fraction), exponent - fraction.length⟩ := by
  have point : EndsDigits ('.' :: (fraction ++ rest)) := by
    intro char first
    cases first
    rfl
  obtain ⟨takenWhole, droppedWhole⟩ := take_digits whole _ wholeDigits point
  obtain ⟨takenFraction, droppedFraction⟩ := take_digits fraction rest fractionDigits stop
  have given : ¬(whole = [] ∧ fraction = []) := by tauto
  simp [decimal?, takenWhole, droppedWhole, takenFraction, droppedFraction, given]

/-- A numeral without a point. -/
theorem decimal_whole (whole rest : Text) (nonempty : whole ≠ [])
    (wholeDigits : ∀ char ∈ whole, char.isDigit = true) (stop : EndsDigits rest)
    (pointless : rest.head? ≠ some '.') :
    decimal? (whole ++ rest) = (exponent? rest).map fun exponent =>
      ⟨digitsValue whole, exponent⟩ := by
  obtain ⟨taken, dropped⟩ := take_digits whole rest wholeDigits stop
  unfold decimal?
  dsimp only
  rw [taken, dropped]
  split
  · exact absurd rfl pointless
  · simp [nonempty]

theorem exponent_written (exponent : Int) :
    exponent? ('e' :: Binary64.writtenExponent exponent) = some exponent := by
  have digits := Text.padded_isDigit 2 exponent.natAbs
  have nonempty := Text.padded_nonempty 2 exponent.natAbs
  have value := digitsValue_padded 2 exponent.natAbs
  have all : (Text.padded 2 exponent.natAbs).all Char.isDigit = true := List.all_eq_true.2 digits
  unfold Binary64.writtenExponent
  by_cases negative : exponent < 0
  · have magnitude : -(exponent.natAbs : Int) = exponent := by omega
    generalize exponent.natAbs = size at *
    simp [exponent?, splitSign, negative, nonempty, all, value, magnitude]
  · have magnitude : (exponent.natAbs : Int) = exponent := by omega
    generalize exponent.natAbs = size at *
    simp [exponent?, splitSign, negative, nonempty, all, value, magnitude]

theorem endsDigits_nil : EndsDigits [] := by
  simp [EndsDigits]

theorem zeros_digits (count : Nat) (char : Char) (member : char ∈ List.replicate count '0') :
    char.isDigit = true := by
  rw [List.eq_of_mem_replicate member]
  decide

/-- Leading zeros do not count. -/
theorem decimal_belowOne (digits : Text) (position : Int) (low : position ≤ 0)
    (all : ∀ char ∈ digits, char.isDigit = true) :
    decimal? ('0' :: '.' :: List.replicate (-position).toNat '0' ++ digits) =
      some ⟨digitsValue digits, position - digits.length⟩ := by
  have padding : ∀ char ∈ List.replicate (-position).toNat '0' ++ digits,
      char.isDigit = true := by
    intro char member
    rcases List.mem_append.1 member with zero | digit
    · exact zeros_digits _ char zero
    · exact all char digit
  have value : digitsValue (['0'] ++ (List.replicate (-position).toNat '0' ++ digits)) =
      digitsValue digits := by
    rw [← List.append_assoc, digitsValue_append, ← List.replicate_one,
      List.replicate_append_replicate, digitsValue_zeros, Nat.zero_mul, Nat.zero_add]
  have exponent : (0 : Int) - (List.replicate (-position).toNat '0' ++ digits).length =
      position - digits.length := by
    rw [List.length_append, List.length_replicate]
    omega
  have read := decimal_fraction ['0'] _ [] (by simp) (by simp) padding endsDigits_nil
  rw [List.append_nil, value, exponent?, Option.map_some, exponent] at read
  exact read

/-- Zeros behind the digits, and the one behind the point, are digits of the decimal. -/
theorem decimal_integral (digits : Text) (zeros : Nat) (nonempty : digits ≠ [])
    (all : ∀ char ∈ digits, char.isDigit = true) :
    decimal? (digits ++ List.replicate zeros '0' ++ ['.', '0']) =
      some ⟨digitsValue digits * 10 ^ (zeros + 1), -1⟩ := by
  have padding : ∀ char ∈ digits ++ List.replicate zeros '0', char.isDigit = true := by
    intro char member
    rcases List.mem_append.1 member with digit | zero
    · exact all char digit
    · exact zeros_digits zeros char zero
  have value : digitsValue (digits ++ List.replicate zeros '0' ++ ['0']) =
      digitsValue digits * 10 ^ (zeros + 1) := by
    rw [List.append_assoc, ← List.replicate_succ', digitsValue_append, digitsValue_zeros,
      List.length_replicate, Nat.add_zero]
  have read := decimal_fraction (digits ++ List.replicate zeros '0') ['0'] [] (by simp [nonempty])
    padding (by simp) endsDigits_nil
  rw [value] at read
  exact read

theorem decimal_inside (digits : Text) (position : Int) (low : 0 < position)
    (high : position < digits.length) (all : ∀ char ∈ digits, char.isDigit = true) :
    decimal? (digits.take position.toNat ++ '.' :: digits.drop position.toNat) =
      some ⟨digitsValue digits, position - digits.length⟩ := by
  have nonempty : digits.take position.toNat ≠ [] := by
    apply List.ne_nil_of_length_pos
    rw [List.length_take]
    omega
  have exponent : (0 : Int) - (digits.drop position.toNat).length = position - digits.length := by
    rw [List.length_drop]
    omega
  have read := decimal_fraction (digits.take position.toNat) (digits.drop position.toNat) []
    (.inl nonempty) (fun char member => all char (List.mem_of_mem_take member))
    (fun char member => all char (List.mem_of_mem_drop member)) endsDigits_nil
  rw [List.append_nil, List.take_append_drop, exponent?, Option.map_some, exponent] at read
  exact read

theorem decimal_positional (digits : Text) (position : Int) (nonempty : digits ≠ [])
    (all : ∀ char ∈ digits, char.isDigit = true) :
    ∃ read, decimal? (Binary64.writtenPositional digits position) = some read ∧
      read.Same ⟨digitsValue digits, position - digits.length⟩ := by
  unfold Binary64.writtenPositional
  split
  · rename_i low
    exact ⟨_, decimal_belowOne digits position low all, rfl⟩
  · rename_i low
    split
    · refine ⟨_, decimal_integral digits _ nonempty all, ?_⟩
      obtain ⟨zeros, difference⟩ : ∃ zeros : Nat, position - digits.length = zeros :=
        ⟨(position - digits.length).toNat, by omega⟩
      have count : position.toNat - digits.length = zeros := by omega
      rw [count, difference]
      simp [Decimal.Same, Nat.pow_succ, Nat.mul_assoc]
    · exact ⟨_, decimal_inside digits position (by omega) (by omega) all, rfl⟩

theorem decimal_scientific (digits : Text) (exponent : Int) (nonempty : digits ≠ [])
    (all : ∀ char ∈ digits, char.isDigit = true) :
    decimal? (Binary64.writtenScientific digits exponent) =
      some ⟨digitsValue digits, exponent + 1 - digits.length⟩ := by
  have mark : EndsDigits ('e' :: Binary64.writtenExponent exponent) := by
    intro char first
    cases first
    rfl
  match digits with
  | [] => exact absurd rfl nonempty
  | [digit] =>
    have read := decimal_whole [digit] _ (by simp) all mark (by simp)
    simp only [Binary64.writtenScientific]
    rw [read, exponent_written]
    simp
  | digit :: next :: rest =>
    have read := decimal_fraction [digit] (next :: rest) ('e' :: Binary64.writtenExponent exponent)
      (by simp) (by simp [all digit List.mem_cons_self])
      (fun char member => all char (List.mem_cons_of_mem _ member)) mark
    simp only [Binary64.writtenScientific]
    have places : exponent - (next :: rest).length =
        exponent + 1 - (digit :: next :: rest).length := by
      have longer : (digit :: next :: rest).length = (next :: rest).length + 1 := rfl
      omega
    rw [List.cons_append, List.cons_append, ← List.singleton_append, read, exponent_written,
      Option.map_some, places]
    rfl

/-- A written decimal reads back to its value. -/
theorem decimal_written (decimal : Decimal) :
    ∃ read, decimal? (Binary64.writtenDecimal decimal) = some read ∧ read.Same decimal := by
  have nonempty := Text.ofNat_nonempty decimal.digits
  have all := Text.ofNat_isDigit decimal.digits
  have value := digitsValue_ofNat decimal.digits
  unfold Binary64.writtenDecimal
  dsimp only
  generalize Text.ofNat decimal.digits = digits at *
  split
  · obtain ⟨read, reads, same⟩ :=
      decimal_positional digits (decimal.exponent + digits.length) nonempty all
    refine ⟨read, reads, ?_⟩
    rwa [value, Int.add_sub_cancel] at same
  · refine ⟨_, decimal_scientific digits _ nonempty all, ?_⟩
    rw [value, Int.sub_add_cancel, Int.add_sub_cancel]
    rfl

end Numeral

end QuadrantChart
