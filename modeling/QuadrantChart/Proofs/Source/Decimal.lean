/-
This file proves that a numeral of a point says a number exactly when it has a digit and at most one
point, whatever script its digits are of.
-/

import QuadrantChart.Proofs.Binary64.RoundTrip
import QuadrantChart.Proofs.Source.PointLine

namespace QuadrantChart

namespace Numeral

/-- Digits of any script, read as plain digits, and other characters as they are. -/
theorem read_plainDigits (text : Text) (visible : ∀ char ∈ text, isSurrounding char = false)
    (plain : ∀ char ∈ text.map plainDigit, char ∈ alphabet) :
    read? text = unsigned? (splitSign (text.map plainDigit)).1
      (splitSign (text.map plainDigit)).2 := by
  have same : (text.map plainDigit).map plainDigit = text.map plainDigit := by
    rw [List.map_congr_left fun char member => (alphabet_plain char (plain char member)).2.1]
    exact List.map_id' _
  have trimmed : Text.trimBy isSurrounding (text.map plainDigit) = text.map plainDigit :=
    Text.trimBy_none _ _ fun char member => (alphabet_plain char (plain char member)).1
  rw [← read_plain _ plain, read?, read?, Text.trimBy_none _ _ visible, trimmed, same]

theorem plainDigit_digit (char : Char) (digit : Text.isDigit char = true) :
    (plainDigit char).isDigit = true := by
  rw [Text.isDigit] at digit
  obtain ⟨value, found⟩ := Option.isSome_iff_exists.1 digit
  obtain ⟨start, near, rfl⟩ := Option.map_eq_some_iff.1 found
  have close := List.find?_some near
  simp only [Bool.and_eq_true, decide_eq_true_eq] at close
  simp only [plainDigit, found]
  exact Text.digitChar_isDigit _ (by omega)

/-- Digits with at most one point among them are a decimal. -/
theorem decimal_parts (parts : Text) (all : ∀ char ∈ parts, char.isDigit = true ∨ char = '.')
    (digit : ∃ char ∈ parts, char.isDigit = true) (point : parts.count '.' ≤ 1) :
    ∃ decimal, decimal? parts = some decimal := by
  by_cases pointed : '.' ∈ parts
  · obtain ⟨whole, fraction, rfl⟩ := List.append_of_mem pointed
    rw [List.count_append, List.count_cons_self] at point
    have pointless (part : Text) (within : part ⊆ whole ++ '.' :: fraction)
        (none : part.count '.' = 0) : ∀ char ∈ part, char.isDigit = true := by
      intro char member
      refine (all char (within member)).resolve_right ?_
      rintro rfl
      exact List.count_eq_zero.1 none member
    have nonempty : whole ≠ [] ∨ fraction ≠ [] := by
      by_contra empty
      obtain ⟨rfl, rfl⟩ : whole = [] ∧ fraction = [] := by tauto
      simp at digit
    have read := decimal_fraction whole fraction [] nonempty
      (pointless whole (List.subset_append_left _ _) (by omega))
      (pointless fraction (by simp) (by omega)) endsDigits_nil
    rw [List.append_nil] at read
    exact ⟨_, read⟩
  · obtain ⟨char, member, -⟩ := digit
    have digits : ∀ char ∈ parts, char.isDigit = true := by
      intro char member
      refine (all char member).resolve_right ?_
      rintro rfl
      exact pointed member
    have read := decimal_whole parts [] (List.ne_nil_of_mem member) digits endsDigits_nil (by simp)
    rw [List.append_nil] at read
    exact ⟨_, read⟩

/-- A digit or a point begins no word. -/
theorem part_letters {first : Char} (part : first.isDigit = true ∨ first = '.') :
    first.toLower ≠ 'i' ∧ first.toLower ≠ 'n' := by
  rcases part with digit | rfl
  · exact digit_letters first digit
  · decide

/-- Digits and points without a sign say a number. -/
theorem unsigned_parts (negative : Bool) (parts : Text)
    (all : ∀ char ∈ parts, char.isDigit = true ∨ char = '.')
    (digit : ∃ char ∈ parts, char.isDigit = true) (point : parts.count '.' ≤ 1) :
    ∃ value, unsigned? negative parts = some value := by
  obtain ⟨decimal, read⟩ := decimal_parts parts all digit point
  cases parts with
  | nil => simp at digit
  | cons first rest =>
    have letters := part_letters (all first List.mem_cons_self)
    rw [unsigned_decimal negative first rest letters.1 letters.2, read]
    exact ⟨_, rfl⟩

/-- The parts of a decimal: digits, at most one point with digits behind it, and an exponent. -/
theorem decimal_shape {text : Text} {decimal : Decimal} (read : decimal? text = some decimal) :
    ∃ whole point fraction behind, text = whole ++ (point ++ (fraction ++ behind)) ∧
      (∀ char ∈ whole ++ fraction, char.isDigit = true) ∧ point.length ≤ 1 ∧
      whole ++ fraction ≠ [] ∧ ∃ exponent, exponent? behind = some exponent := by
  have digits (part : Text) : ∀ char ∈ part.takeWhile Char.isDigit, char.isDigit = true :=
    List.all_eq_true.1 List.all_takeWhile
  have parts (part : Text) : part = part.takeWhile Char.isDigit ++ part.dropWhile Char.isDigit :=
    List.takeWhile_append_dropWhile.symm
  have split := parts text
  have wholeDigits := digits text
  unfold decimal? at read
  dsimp only at read
  generalize text.takeWhile Char.isDigit = whole at *
  generalize text.dropWhile Char.isDigit = rest at *
  split at read
  · rename_i others
    split at read
    · cases read
    · rename_i given
      obtain ⟨exponent, found, -⟩ := Option.map_eq_some_iff.1 read
      refine ⟨whole, ['.'], others.takeWhile Char.isDigit, others.dropWhile Char.isDigit, ?_, ?_,
        Nat.le_refl 1, ?_, exponent, found⟩
      · rw [split, ← parts others]
        rfl
      · exact List.forall_mem_append.2 ⟨wholeDigits, digits others⟩
      · simpa using given
  · split at read
    · cases read
    · rename_i given
      obtain ⟨exponent, found, -⟩ := Option.map_eq_some_iff.1 read
      refine ⟨whole, [], [], rest, split, ?_, Nat.zero_le 1, ?_, exponent, found⟩
      · rwa [List.append_nil]
      · simpa using given

theorem exponent_mark {mark : Char} {rest : Text} {exponent : Int}
    (read : exponent? (mark :: rest) = some exponent) : mark = 'e' ∨ mark = 'E' := by
  by_contra other
  rw [not_or] at other
  simp [exponent?, other] at read

/-- Digits and points are a decimal only with a digit and at most one point. -/
theorem decimal_only {parts : Text} {decimal : Decimal}
    (all : ∀ char ∈ parts, char.isDigit = true ∨ char = '.')
    (read : decimal? parts = some decimal) :
    (∃ char ∈ parts, char.isDigit = true) ∧ parts.count '.' ≤ 1 := by
  obtain ⟨whole, point, fraction, behind, rfl, digits, atMostOne, nonempty, exponent, found⟩ :=
    decimal_shape read
  have ended : behind = [] := by
    cases behind with
    | nil => rfl
    | cons mark others =>
      have part := all mark (by simp)
      rcases exponent_mark found with rfl | rfl <;> simp at part
  have pointless : (whole ++ fraction).count '.' = 0 :=
    List.count_eq_zero.2 fun member => nomatch digits '.' member
  constructor
  · obtain ⟨char, member⟩ := List.exists_mem_of_ne_nil _ nonempty
    refine ⟨char, ?_, digits char member⟩
    rcases List.mem_append.1 member with inWhole | inFraction
    · exact List.mem_append_left _ inWhole
    · exact List.mem_append_right _ (List.mem_append_right _ (List.mem_append_left _ inFraction))
  · have fewPoints : point.count '.' ≤ point.length := List.count_le_length
    rw [ended, List.append_nil]
    simp only [List.count_append] at pointless ⊢
    omega

theorem unsigned_only {negative : Bool} {parts : Text} {value : Binary64}
    (all : ∀ char ∈ parts, char.isDigit = true ∨ char = '.')
    (read : unsigned? negative parts = some value) :
    (∃ char ∈ parts, char.isDigit = true) ∧ parts.count '.' ≤ 1 := by
  cases parts with
  | nil => cases read
  | cons first rest =>
    have letters := part_letters (all first List.mem_cons_self)
    rw [unsigned_decimal negative first rest letters.1 letters.2] at read
    obtain ⟨decimal, found, -⟩ := Option.map_eq_some_iff.1 read
    exact decimal_only all found

/-- Digits and points have no sign of their own. -/
theorem splitSign_parts {sign parts : Text} (signed : sign = [] ∨ sign = ['-'])
    (all : ∀ char ∈ parts, char.isDigit = true ∨ char = '.') :
    (splitSign (sign ++ parts)).2 = parts := by
  rcases signed with rfl | rfl
  · cases parts with
    | nil => rfl
    | cons first rest =>
      have unsigned : first ≠ '-' ∧ first ≠ '+' := by
        rcases all first List.mem_cons_self with isDigit | rfl
        · constructor <;> rintro rfl <;> cases isDigit
        · decide
      rw [List.nil_append, splitSign_unsigned first rest unsigned.1 unsigned.2]
  · rfl

end Numeral

namespace Source

/-- A numeral with a digit and at most one point. -/
structure IsDecimal (text : Text) : Prop where
  numeral : IsNumeral text
  digit : ∃ char ∈ text, Text.isDigit char = true
  point : text.count '.' ≤ 1

/-- The parts of a numeral as plain digits and points. -/
theorem plainParts {parts : Text} (all : ∀ char ∈ parts, isNumeralPart char = true) :
    ∀ char ∈ parts.map Numeral.plainDigit, char.isDigit = true ∨ char = '.' := by
  intro char member
  obtain ⟨part, among, rfl⟩ := List.mem_map.1 member
  have isPart := all part among
  rw [isNumeralPart, Bool.or_eq_true, decide_eq_true_eq] at isPart
  rcases isPart with digit | rfl
  · exact .inl (Numeral.plainDigit_digit part digit)
  · exact .inr (by decide)

theorem plainParts_count {parts : Text} (all : ∀ char ∈ parts, isNumeralPart char = true) :
    (parts.map Numeral.plainDigit).count '.' = parts.count '.' := by
  induction parts with
  | nil => rfl
  | cons first rest inductionHypothesis =>
    obtain ⟨here, later⟩ := List.forall_mem_cons.1 all
    have same : Numeral.plainDigit first = '.' ↔ first = '.' := by
      rw [isNumeralPart, Bool.or_eq_true, decide_eq_true_eq] at here
      constructor
      · intro point
        refine here.resolve_left fun digit => ?_
        have plain := Numeral.plainDigit_digit first digit
        rw [point] at plain
        cases plain
      · rintro rfl
        decide
    simp only [List.map_cons, List.count_cons, inductionHypothesis later, beq_iff_eq, same]

/-- A sign is no digit, and a numeral keeps it. -/
theorem sign_kept {sign : Text} (signed : sign = [] ∨ sign = ['-']) :
    ∀ char ∈ sign, Text.isDigit char = false ∧ Text.isBlank char = false ∧
      Numeral.plainDigit char = char ∧ char ∈ Numeral.alphabet := by
  rcases signed with rfl | rfl
  · simp
  · exact List.forall_mem_singleton.2 (by decide)

theorem plainParts_digit {sign parts : Text} (signed : sign = [] ∨ sign = ['-'])
    (all : ∀ char ∈ parts, isNumeralPart char = true) :
    (∃ char ∈ parts.map Numeral.plainDigit, char.isDigit = true) ↔
      ∃ char ∈ sign ++ parts, Text.isDigit char = true := by
  constructor
  · rintro ⟨_, member, isDigit⟩
    obtain ⟨char, inParts, rfl⟩ := List.mem_map.1 member
    refine ⟨char, List.mem_append_right _ inParts, ?_⟩
    have part := all char inParts
    rw [isNumeralPart, Bool.or_eq_true, decide_eq_true_eq] at part
    refine part.resolve_right ?_
    rintro rfl
    exact absurd isDigit (by decide)
  · rintro ⟨char, member, isDigit⟩
    have inParts : char ∈ parts := by
      refine (List.mem_append.1 member).resolve_left fun inSign => ?_
      rw [(sign_kept signed char inSign).1] at isDigit
      cases isDigit
    exact ⟨_, List.mem_map_of_mem inParts, Numeral.plainDigit_digit char isDigit⟩

/-- A numeral is read by its plain digits and points. -/
theorem IsNumeral.read_parts {text : Text} (isNumeral : IsNumeral text) :
    ∃ negative parts, Numeral.read? text = Numeral.unsigned? negative parts ∧
      (∀ char ∈ parts, char.isDigit = true ∨ char = '.') ∧
      ((∃ char ∈ parts, char.isDigit = true) ↔ ∃ char ∈ text, Text.isDigit char = true) ∧
      parts.count '.' = text.count '.' := by
  obtain ⟨sign, parts, rfl, signed, -, all⟩ := isNumeral
  have kept := sign_kept signed
  have plain := plainParts all
  have visible : ∀ char ∈ sign ++ parts, Numeral.isSurrounding char = false := by
    intro char member
    rw [Numeral.isSurrounding]
    rcases List.mem_append.1 member with inSign | inParts
    · rw [(kept char inSign).2.1, Bool.false_and]
    · rw [numeralPart_not_blank char (all char inParts), Bool.false_and]
  have mapped : (sign ++ parts).map Numeral.plainDigit =
      sign ++ parts.map Numeral.plainDigit := by
    rw [List.map_append, List.map_congr_left fun char inSign => (kept char inSign).2.2.1,
      List.map_id']
  have alphabetic : ∀ char ∈ sign ++ parts.map Numeral.plainDigit, char ∈ Numeral.alphabet := by
    intro char member
    rcases List.mem_append.1 member with inSign | inParts
    · exact (kept char inSign).2.2.2
    · rcases plain char inParts with isDigit | rfl
      · exact Numeral.digit_mem_alphabet char isDigit
      · decide
  have read := Numeral.read_plainDigits _ visible (by rwa [mapped])
  rw [mapped, Numeral.splitSign_parts signed plain] at read
  refine ⟨_, _, read, plain, plainParts_digit signed all, ?_⟩
  have signless : sign.count '.' = 0 := by rcases signed with rfl | rfl <;> decide
  rw [plainParts_count all, List.count_append, signless, Nat.zero_add]

/-- A numeral is a number exactly when it has a digit and at most one point. -/
theorem IsNumeral.read_iff {text : Text} (isNumeral : IsNumeral text) :
    (∃ value, Numeral.read? text = some value) ↔ IsDecimal text := by
  obtain ⟨negative, parts, read, all, digit, point⟩ := isNumeral.read_parts
  rw [read]
  constructor
  · rintro ⟨value, found⟩
    obtain ⟨someDigit, atMostOne⟩ := Numeral.unsigned_only all found
    exact ⟨isNumeral, digit.1 someDigit, point ▸ atMostOne⟩
  · rintro ⟨-, someDigit, atMostOne⟩
    exact Numeral.unsigned_parts negative parts all (digit.2 someDigit) (point ▸ atMostOne)

theorem IsDecimal.read {text : Text} (decimal : IsDecimal text) :
    ∃ value, Numeral.read? text = some value :=
  decimal.numeral.read_iff.2 decimal

end Source

end QuadrantChart
