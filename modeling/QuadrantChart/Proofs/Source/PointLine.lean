/-
This file says which lines are points, and proves that reading a line finds its point. A label goes
as far as it can: up to the last colon that coordinates follow.
-/

import QuadrantChart.Proofs.Markup.Tree
import QuadrantChart.Source.Point

namespace QuadrantChart

namespace Source

/-- An optional minus sign, and at least one digit or point. -/
def IsNumeral (text : Text) : Prop :=
  ∃ sign parts, text = sign ++ parts ∧ (sign = [] ∨ sign = ['-']) ∧ parts ≠ [] ∧
    ∀ char ∈ parts, isNumeralPart char = true

/-- Two numerals in brackets with a comma between them, whatever is behind the brackets. -/
def HasCoordinates (text x y : Text) : Prop :=
  ∃ space gap behind, text = space ++ '[' :: (x ++ ',' :: (gap ++ y ++ ']' :: behind)) ∧
    Text.IsBlank space ∧ Text.IsBlank gap ∧ IsNumeral x ∧ IsNumeral y

/-- Coordinates follow no colon. -/
def LacksParts (text : Text) : Prop :=
  ∀ label rest, text = label ++ ':' :: rest → ∀ x y, ¬HasCoordinates rest x y

/-- A label and the coordinates that follow a colon, which is the last one that they follow. -/
def HasParts (line label x y : Text) : Prop :=
  ∃ rest, line = label ++ ':' :: rest ∧ HasCoordinates rest x y ∧ LacksParts rest

/-- A line that is a point: a label that is not empty, and two coordinates that are numbers. -/
def IsPoint (line : Text) (point : Point) : Prop :=
  ∃ label xText yText x y, HasParts line label xText yText ∧ label ≠ [] ∧
    Numeral.read? xText = some x ∧ Numeral.read? yText = some y ∧
    point = .clamped (Text.trim label) x y

/-- The digits of all scripts lie outside the ranges of blank characters. -/
theorem digit_not_blank (char : Char) (digit : Text.isDigit char = true) :
    Text.isBlank char = false := by
  have apart : ∀ start ∈ Text.zeros, ∀ range ∈ Text.blankRanges,
      start + 9 < range.1 ∨ range.2 < start := by decide
  rw [Text.isDigit, Text.digitValue?, Option.isSome_map, List.find?_isSome] at digit
  obtain ⟨start, startMember, close⟩ := digit
  rw [Text.isBlank, Text.inRanges, List.any_eq_false]
  intro range rangeMember within
  simp only [Bool.and_eq_true, decide_eq_true_eq] at within close
  have disjoint := apart start startMember range rangeMember
  omega

/-- Blank characters are dropped up to the first other character. -/
theorem drop_blank (space rest : Text) (first : Char) (blank : Text.IsBlank space)
    (ends : Text.isBlank first = false) :
    (space ++ first :: rest).dropWhile Text.isBlank = first :: rest := by
  induction space with
  | nil =>
    rw [List.nil_append, List.dropWhile_cons_of_neg]
    rw [ends]
    decide
  | cons char space inductionHypothesis =>
    obtain ⟨here, later⟩ := List.forall_mem_cons.1 blank
    rw [List.cons_append, List.dropWhile_cons_of_pos here]
    exact inductionHypothesis later

/-- A text is its blank characters up to the first other one, and what follows them. -/
theorem blank_before (text : Text) :
    ∃ space, Text.IsBlank space ∧ text = space ++ text.dropWhile Text.isBlank := by
  refine ⟨text.takeWhile Text.isBlank, fun char member => ?_, ?_⟩
  · exact List.all_eq_true.1 List.all_takeWhile char member
  · exact List.takeWhile_append_dropWhile.symm

theorem after_eq (char : Char) (text rest : Text) :
    after? char text = some rest ↔ text = char :: rest := by
  cases text with
  | nil => simp [after?]
  | cons first others => simp [after?]

/-- The parts of a numeral are taken up to the first other character. -/
theorem take_parts (parts rest : Text) (next : Char)
    (all : ∀ char ∈ parts, isNumeralPart char = true) (ends : isNumeralPart next = false) :
    (parts ++ next :: rest).takeWhile isNumeralPart = parts ∧
      (parts ++ next :: rest).dropWhile isNumeralPart = next :: rest := by
  rw [List.takeWhile_append_of_pos all, List.dropWhile_append_of_pos all,
    List.takeWhile_cons_of_neg, List.dropWhile_cons_of_neg, List.append_nil]
  · exact ⟨rfl, rfl⟩
  all_goals
    rw [ends]
    decide

theorem numeral_minus (text : Text) :
    numeral? ('-' :: text) =
      if (text.takeWhile isNumeralPart).isEmpty then none
      else some ('-' :: text.takeWhile isNumeralPart, text.dropWhile isNumeralPart) :=
  rfl

theorem numeral_plain (first : Char) (rest : Text) (notMinus : first ≠ '-') :
    numeral? (first :: rest) =
      if ((first :: rest).takeWhile isNumeralPart).isEmpty then none
      else some ((first :: rest).takeWhile isNumeralPart,
        (first :: rest).dropWhile isNumeralPart) := by
  unfold numeral?
  split
  rename_i sign unsigned parts
  split at parts
  · rename_i equal
    cases equal
    exact absurd rfl notMinus
  · cases parts
    rfl

theorem numeral_sound {text numeral rest : Text} (read : numeral? text = some (numeral, rest)) :
    text = numeral ++ rest ∧ IsNumeral numeral := by
  have parts (text : Text) : ∀ char ∈ text.takeWhile isNumeralPart, isNumeralPart char = true :=
    List.all_eq_true.1 List.all_takeWhile
  cases text with
  | nil => cases read
  | cons first others =>
    by_cases minus : first = '-'
    · rw [minus, numeral_minus] at read
      split at read
      · cases read
      · rename_i nonempty
        cases read
        refine ⟨?_, ['-'], _, rfl, .inr rfl, fun none => ?_, parts others⟩
        · rw [minus, List.cons_append, List.takeWhile_append_dropWhile]
        · exact nonempty (List.isEmpty_iff.2 none)
    · rw [numeral_plain first others minus] at read
      split at read
      · cases read
      · rename_i nonempty
        cases read
        refine ⟨List.takeWhile_append_dropWhile.symm, [], _, rfl, .inl rfl, fun none => ?_,
          parts (first :: others)⟩
        exact nonempty (List.isEmpty_iff.2 none)

theorem numeral_complete {numeral : Text} (isNumeral : IsNumeral numeral) (rest : Text)
    (next : Char) (ends : isNumeralPart next = false) :
    numeral? (numeral ++ next :: rest) = some (numeral, next :: rest) := by
  obtain ⟨sign, parts, rfl, signed, nonempty, all⟩ := isNumeral
  obtain ⟨taken, dropped⟩ := take_parts parts rest next all ends
  have notEmpty : ¬parts.isEmpty = true := fun empty => nonempty (List.isEmpty_iff.1 empty)
  rcases signed with rfl | rfl
  · cases parts with
    | nil => exact absurd rfl nonempty
    | cons first others =>
      have notMinus : first ≠ '-' := by
        rintro rfl
        exact absurd (all '-' List.mem_cons_self) (by decide)
      rw [List.nil_append, List.cons_append, numeral_plain first _ notMinus, ← List.cons_append,
        taken, dropped, if_neg notEmpty]
  · rw [List.cons_append, List.nil_append, List.cons_append, numeral_minus, taken, dropped,
      if_neg notEmpty]

theorem numeralPart_not_blank (char : Char) (part : isNumeralPart char = true) :
    Text.isBlank char = false := by
  rw [isNumeralPart, Bool.or_eq_true, decide_eq_true_eq] at part
  rcases part with digit | rfl
  · exact digit_not_blank char digit
  · decide

theorem numeral_first {numeral : Text} (isNumeral : IsNumeral numeral) :
    ∃ first rest, numeral = first :: rest ∧ Text.isBlank first = false := by
  obtain ⟨sign, parts, rfl, rfl | rfl, nonempty, all⟩ := isNumeral
  · cases parts with
    | nil => exact absurd rfl nonempty
    | cons first rest => exact ⟨first, rest, rfl, numeralPart_not_blank first (all _ (.head _))⟩
  · exact ⟨'-', parts, rfl, by decide⟩

theorem coordinates_iff (text x y : Text) :
    coordinates? text = some (x, y) ↔ HasCoordinates text x y := by
  constructor
  · intro read
    simp only [coordinates?, Option.bind_eq_bind, Option.bind_eq_some_iff, Prod.exists,
      after_eq] at read
    obtain ⟨bracketed, opens, left, afterLeft, leftRead, between, comma, right, afterRight,
      rightRead, behind, closes, equal⟩ := read
    cases equal
    obtain ⟨leftParts, leftNumeral⟩ := numeral_sound leftRead
    obtain ⟨rightParts, rightNumeral⟩ := numeral_sound rightRead
    obtain ⟨space, spaceBlank, spaced⟩ := blank_before text
    obtain ⟨gap, gapBlank, gapped⟩ := blank_before between
    refine ⟨space, gap, behind, ?_, spaceBlank, gapBlank, leftNumeral, rightNumeral⟩
    rw [spaced, opens, leftParts, comma, gapped, rightParts, closes, List.append_assoc]
  · rintro ⟨space, gap, behind, rfl, spaceBlank, gapBlank, leftNumeral, rightNumeral⟩
    have opens := drop_blank space (x ++ ',' :: (gap ++ y ++ ']' :: behind)) '[' spaceBlank
      (by decide)
    have left := numeral_complete leftNumeral (gap ++ y ++ ']' :: behind) ',' (by decide)
    have right := numeral_complete rightNumeral behind ']' (by decide)
    obtain ⟨first, rest, rfl, firstPlain⟩ := numeral_first rightNumeral
    have skips : (gap ++ first :: rest ++ ']' :: behind).dropWhile Text.isBlank =
        first :: rest ++ ']' :: behind := by
      rw [List.append_assoc]
      exact drop_blank gap (rest ++ ']' :: behind) first gapBlank firstPlain
    have found (char : Char) (text : Text) : after? char (char :: text) = some text :=
      (after_eq char _ text).2 rfl
    simp only [coordinates?, Option.bind_eq_bind, opens, found, Option.bind_some, left, skips,
      right]
    rfl

theorem lacksParts_cons (char : Char) (rest : Text) :
    LacksParts (char :: rest) ↔
      LacksParts rest ∧ (char = ':' → ∀ x y, ¬HasCoordinates rest x y) := by
  constructor
  · intro lacks
    refine ⟨fun label after parts => lacks (char :: label) after (by rw [parts]; rfl), ?_⟩
    rintro rfl
    exact lacks [] rest rfl
  · rintro ⟨later, here⟩ label after parts
    cases label with
    | nil =>
      cases parts
      exact here rfl
    | cons first others =>
      cases parts
      exact later others after rfl

theorem hasParts_cons (char : Char) (rest label x y : Text) :
    HasParts (char :: rest) label x y ↔
      (∃ others, label = char :: others ∧ HasParts rest others x y) ∨
        (label = [] ∧ char = ':' ∧ HasCoordinates rest x y ∧ LacksParts rest) := by
  constructor
  · rintro ⟨after, parts, coordinates, lacks⟩
    cases label with
    | nil =>
      cases parts
      exact .inr ⟨rfl, rfl, coordinates, lacks⟩
    | cons first others =>
      cases parts
      exact .inl ⟨others, rfl, after, rfl, coordinates, lacks⟩
  · rintro (⟨others, rfl, after, rfl, coordinates, lacks⟩ | ⟨rfl, rfl, coordinates, lacks⟩)
    · exact ⟨after, rfl, coordinates, lacks⟩
    · exact ⟨rest, rfl, coordinates, lacks⟩

theorem hasParts_not_lacks {text label x y : Text} (parts : HasParts text label x y) :
    ¬LacksParts text := by
  obtain ⟨rest, equal, coordinates, -⟩ := parts
  exact fun lacks => lacks label rest equal x y coordinates

/-- Reading from the right finds the last colon that coordinates follow, if there is one. -/
theorem lastColon_spec (text : Text) :
    match lastColon? text with
    | some (label, x, y) =>
      ∀ otherLabel otherX otherY, HasParts text otherLabel otherX otherY ↔
        (otherLabel, otherX, otherY) = (label, x, y)
    | none => LacksParts text := by
  induction text with
  | nil =>
    rintro (_ | _) rest parts <;> cases parts
  | cons char rest inductionHypothesis =>
    rw [lastColon?]
    cases found : lastColon? rest with
    | some parts =>
      obtain ⟨label, x, y⟩ := parts
      rw [found] at inductionHypothesis
      have later := (inductionHypothesis label x y).2 rfl
      intro otherLabel otherX otherY
      rw [hasParts_cons]
      constructor
      · rintro (⟨others, rfl, parts⟩ | ⟨-, -, -, lacks⟩)
        · cases (inductionHypothesis others otherX otherY).1 parts
          rfl
        · exact absurd lacks (hasParts_not_lacks later)
      · intro equal
        cases equal
        exact .inl ⟨label, rfl, later⟩
    | none =>
      rw [found] at inductionHypothesis
      by_cases colon : char = ':'
      · simp only [if_pos colon]
        cases read : coordinates? rest with
        | none =>
          refine (lacksParts_cons char rest).2 ⟨inductionHypothesis, fun _ x y coordinates => ?_⟩
          cases read.symm.trans ((coordinates_iff rest x y).2 coordinates)
        | some coordinates =>
          obtain ⟨x, y⟩ := coordinates
          intro otherLabel otherX otherY
          rw [hasParts_cons]
          constructor
          · rintro (⟨others, -, parts⟩ | ⟨rfl, -, coordinates, -⟩)
            · exact absurd inductionHypothesis (hasParts_not_lacks parts)
            · cases read.symm.trans ((coordinates_iff rest otherX otherY).2 coordinates)
              rfl
          · intro equal
            cases equal
            exact .inr ⟨rfl, colon, (coordinates_iff rest x y).1 read, inductionHypothesis⟩
      · simp only [if_neg colon]
        exact (lacksParts_cons char rest).2
          ⟨inductionHypothesis, fun isColon => absurd isColon colon⟩

theorem lastColon_iff (text label x y : Text) :
    lastColon? text = some (label, x, y) ↔ HasParts text label x y := by
  have spec := lastColon_spec text
  cases found : lastColon? text with
  | none =>
    rw [found] at spec
    constructor
    · intro equal
      cases equal
    · intro parts
      exact absurd spec (hasParts_not_lacks parts)
  | some parts =>
    rw [found] at spec
    rw [spec label x y, Option.some.injEq, eq_comm]

theorem pointParts_iff (line label x y : Text) :
    pointParts? line = some (label, x, y) ↔ HasParts line label x y ∧ label ≠ [] := by
  cases line with
  | nil =>
    constructor
    · intro equal
      cases equal
    · rintro ⟨⟨rest, parts, -⟩, -⟩
      cases label <;> cases parts
  | cons first rest =>
    simp only [pointParts?, Option.map_eq_some_iff, Prod.exists, lastColon_iff, hasParts_cons]
    constructor
    · rintro ⟨others, otherX, otherY, parts, equal⟩
      cases equal
      exact ⟨.inl ⟨others, rfl, parts⟩, List.cons_ne_nil _ _⟩
    · rintro ⟨⟨others, rfl, parts⟩ | ⟨empty, -⟩, nonempty⟩
      · exact ⟨others, x, y, parts, rfl⟩
      · exact absurd empty nonempty

/-- A line is read as a point when it is one, and as no other point. -/
theorem point_iff (line : Text) (point : Point) :
    point? line = some point ↔ IsPoint line point := by
  simp only [point?, Option.bind_eq_bind, Option.bind_eq_some_iff, Prod.exists, pointParts_iff,
    IsPoint]
  constructor
  · rintro ⟨label, xText, yText, ⟨parts, nonempty⟩, x, xRead, y, yRead, equal⟩
    cases equal
    exact ⟨label, xText, yText, x, y, parts, nonempty, xRead, yRead, rfl⟩
  · rintro ⟨label, xText, yText, x, y, parts, nonempty, xRead, yRead, rfl⟩
    exact ⟨label, xText, yText, ⟨parts, nonempty⟩, x, xRead, y, yRead, rfl⟩

/-- The characters that every point has. -/
def HasSigns (line : Text) : Prop :=
  ':' ∈ line ∧ '[' ∈ line ∧ ']' ∈ line

theorem looksLikePoint_iff (line : Text) : looksLikePoint line = true ↔ HasSigns line := by
  simp [looksLikePoint, HasSigns, and_assoc]

theorem looksLikePoint_of_isPoint {line : Text} {point : Point} (isPoint : IsPoint line point) :
    looksLikePoint line = true := by
  obtain ⟨label, xText, yText, x, y, ⟨rest, rfl, coordinates, -⟩, -⟩ := isPoint
  obtain ⟨space, gap, behind, rfl, -⟩ := coordinates
  simp [looksLikePoint]

end Source

end QuadrantChart
