/-
This file says which lines add a point by the positions of their colons, and proves that the last
colon that coordinates follow decides, whatever its numerals are.
-/

import Mathlib.Order.Lattice.Nat
import QuadrantChart.Proofs.Source.Decimal
import QuadrantChart.Proofs.Source.Meaning
import QuadrantChart.Proofs.Source.Search
import QuadrantChart.Proofs.Text.Split
import QuadrantChart.Proofs.Text.Trim

namespace QuadrantChart

/-- The point that a directive adds. -/
def Directive.added? : Directive → Option Point
  | .point added => some added
  | _ => none

/-- Directives add their points in order behind the points of a chart. -/
theorem Chart.apply_points (chart : Chart) (directives : List Directive) :
    (directives.foldl Chart.apply chart).points =
      chart.points ++ directives.filterMap Directive.added? := by
  induction directives generalizing chart with
  | nil => simp
  | cons directive directives inductionHypothesis =>
    rw [List.foldl_cons, inductionHypothesis, List.filterMap_cons]
    cases directive <;> simp [Chart.apply, Directive.added?]

namespace Source

/-- The positions of the colons behind a label that coordinates follow. -/
def colons (text : Text) : Set Nat :=
  {position | 1 ≤ position ∧ text[position]? = some ':' ∧
    ∃ x y, HasCoordinates (text.drop (position + 1)) x y}

instance (text x y : Text) : Decidable (HasCoordinates text x y) :=
  decidable_of_iff _ (coordinates_iff text x y)

instance (text : Text) (position : Nat) : Decidable (position ∈ colons text) :=
  decidable_of_iff (1 ≤ position ∧ text[position]? = some ':' ∧
    (coordinates? (text.drop (position + 1))).isSome = true) (by
      simp only [colons, Set.mem_ofPred_eq, ← coordinates_iff, Option.isSome_iff_exists,
        Prod.exists])

instance (text : Text) (position : Nat) : Decidable (IsGreatest (colons text) position) :=
  decidable_of_iff (position ∈ colons text ∧
    ∀ later < text.length, later ∈ colons text → later ≤ position) (by
      refine and_congr_right fun _ => forall_congr' fun later => ?_
      constructor
      · intro bound member
        exact bound (List.getElem?_eq_some_iff.1 member.2.1).1 member
      · exact fun bound _ => bound)

/-- A line adds points wherever it stands in a source, whatever the other lines are. -/
def Adds (line : Text) (points : List Point) : Prop :=
  ∀ source before after, lines source = before ++ line :: after →
    (chart source).points = (chartOf before).points ++ points ++ (chartOf after).points

/-- The point of a line, if it is one. -/
def addedPoint? (line : Text) : Option Point :=
  (readLine line).directive?.bind Directive.added?

theorem chartOf_added (lines : List Text) :
    (chartOf lines).points = lines.filterMap addedPoint? := by
  rw [chartOf, Chart.apply_points, List.nil_append, List.filterMap_filterMap]
  rfl

theorem adds_added (line : Text) : Adds line (addedPoint? line).toList := by
  intro source before after parts
  have points : (chart source).points = (lines source).filterMap addedPoint? := chartOf_added _
  rw [points, parts, chartOf_added, chartOf_added, List.filterMap_append, List.filterMap_cons,
    List.append_assoc]
  cases addedPoint? line <;> rfl

/-- A line that can stand in a source adds nothing but its point. -/
theorem adds_iff {line : Text} (isInline : Text.IsInline line) (points : List Point) :
    Adds line points ↔ points = (addedPoint? line).toList := by
  constructor
  · intro adds
    have alone : lines line = [] ++ line :: [] := by
      rw [lines, Text.lines, Text.splitOn_clean isInline.oneLine, List.map_singleton,
        isInline.trimmed, List.nil_append]
    have added := (adds line [] [] alone).symm.trans (adds_added line line [] [] alone)
    simpa using added
  · rintro rfl
    exact adds_added line

/-- A line that begins like no comment and no directive. -/
structure IsFree (line : Text) : Prop where
  isInline : Text.IsInline line
  nonempty : line ≠ []
  notComment : ¬"%%".toList <+: line
  unclaimed : ∀ keyword, ¬Claims keyword line

theorem IsFree.addedPoint_iff {line : Text} (isFree : IsFree line) (point : Point) :
    addedPoint? line = some point ↔ IsPoint line point := by
  have read := readLine_iff isFree.nonempty isFree.notComment
  rw [addedPoint?, Option.bind_eq_some_iff]
  constructor
  · rintro ⟨directive, found, isPoint⟩
    cases directive <;> cases isPoint
    exact ((read _).1 found).2
  · intro isPoint
    exact ⟨.point point, (read _).2 ⟨isFree.unclaimed, isPoint⟩, rfl⟩

theorem IsFree.adds_point {line : Text} (isFree : IsFree line) (point : Point) :
    Adds line [point] ↔ IsPoint line point := by
  rw [adds_iff isFree.isInline, ← isFree.addedPoint_iff]
  cases addedPoint? line <;> simp [eq_comm]

theorem IsFree.adds_none {line : Text} (isFree : IsFree line)
    (none : ∀ point, ¬IsPoint line point) : Adds line [] := by
  rw [adds_iff isFree.isInline]
  cases found : addedPoint? line with
  | none => rfl
  | some point => exact absurd ((isFree.addedPoint_iff point).1 found) (none point)

/-- The parts of a text at a colon. -/
theorem parts_at {text : Text} {position : Nat} (colon : text[position]? = some ':') :
    text = text.take position ++ ':' :: text.drop (position + 1) := by
  obtain ⟨inside, equal⟩ := List.getElem?_eq_some_iff.1 colon
  rw [← equal, List.getElem_cons_drop, List.take_append_drop]

theorem mem_colons {line label rest x y : Text} (parts : line = label ++ ':' :: rest)
    (nonempty : label ≠ []) (coordinates : HasCoordinates rest x y) :
    label.length ∈ colons line := by
  subst parts
  have behind : (label ++ ':' :: rest).drop (label.length + 1) = rest := by
    rw [List.append_cons]
    exact List.drop_left' (by simp)
  exact ⟨List.length_pos_iff.2 nonempty, by simp, x, y, behind.symm ▸ coordinates⟩

theorem noParts_of_empty {line label x y : Text} (none : colons line = ∅) (nonempty : label ≠ []) :
    ¬HasParts line label x y := by
  rintro ⟨rest, parts, coordinates, -⟩
  have member := mem_colons parts nonempty coordinates
  rw [none] at member
  exact member

theorem looksLikePoint_of_colons {line : Text} (nonempty : (colons line).Nonempty) :
    looksLikePoint line = true := by
  obtain ⟨position, -, colon, x, y, space, gap, behind, rest, -⟩ := nonempty
  have parts := parts_at colon
  rw [rest] at parts
  rw [parts]
  simp [looksLikePoint]

/-- Coordinates follow no colon behind the last one. -/
theorem hasParts_greatest {line x y : Text} {position : Nat}
    (greatest : IsGreatest (colons line) position)
    (coordinates : HasCoordinates (line.drop (position + 1)) x y) :
    HasParts line (line.take position) x y ∧ line.take position ≠ [] := by
  obtain ⟨⟨positive, colon, -⟩, last⟩ := greatest
  have inside := (List.getElem?_eq_some_iff.1 colon).1
  have parts := parts_at colon
  refine ⟨⟨_, parts, coordinates, ?_⟩, ?_⟩
  · intro label rest split otherX otherY found
    have whole : line = (line.take position ++ ':' :: label) ++ ':' :: rest := by
      rw [List.append_assoc, List.cons_append, ← split]
      exact parts
    have later := last (mem_colons whole (by simp) found)
    rw [List.length_append, List.length_take, List.length_cons] at later
    omega
  · apply List.ne_nil_of_length_pos
    rw [List.length_take]
    omega

/-- Among the colons that coordinates follow there is a last one. -/
theorem colons_greatest {line : Text} (nonempty : (colons line).Nonempty) :
    ∃ position, IsGreatest (colons line) position := by
  have bounded : BddAbove (colons line) := by
    refine ⟨line.length, fun position member => ?_⟩
    exact Nat.le_of_lt (List.getElem?_eq_some_iff.1 member.2.1).1
  exact ⟨_, Nat.sSup_mem nonempty bounded, fun position member => le_csSup bounded member⟩

theorem hasParts_unique {line label otherLabel x otherX y otherY : Text}
    (parts : HasParts line label x y) (others : HasParts line otherLabel otherX otherY) :
    (otherLabel, otherX, otherY) = (label, x, y) := by
  have same := (lastColon_iff line otherLabel otherX otherY).2 others
  rw [(lastColon_iff line label x y).2 parts] at same
  exact (Option.some.inj same).symm

/-- What a line with known parts is, is a matter of its numerals only. -/
theorem isPoint_of_parts {line label x y : Text} (parts : HasParts line label x y)
    (nonempty : label ≠ []) (point : Point) :
    IsPoint line point ↔ ∃ xValue yValue, Numeral.read? x = some xValue ∧
      Numeral.read? y = some yValue ∧ point = .clamped (Text.trim label) xValue yValue := by
  constructor
  · rintro ⟨otherLabel, otherX, otherY, xValue, yValue, others, -, xRead, yRead, rfl⟩
    cases hasParts_unique parts others
    exact ⟨xValue, yValue, xRead, yRead, rfl⟩
  · rintro ⟨xValue, yValue, xRead, yRead, rfl⟩
    exact ⟨label, x, y, xValue, yValue, parts, nonempty, xRead, yRead, rfl⟩

theorem HasCoordinates.numerals {text x y : Text} (coordinates : HasCoordinates text x y) :
    IsNumeral x ∧ IsNumeral y := by
  obtain ⟨space, gap, behind, -, -, -, xNumeral, yNumeral⟩ := coordinates
  exact ⟨xNumeral, yNumeral⟩

/-- A line with known parts is a point when both numerals are numbers. -/
theorem exists_point_iff {line label x y : Text} (parts : HasParts line label x y)
    (nonempty : label ≠ []) : (∃ point, IsPoint line point) ↔ IsDecimal x ∧ IsDecimal y := by
  obtain ⟨rest, -, coordinates, -⟩ := id parts
  obtain ⟨xNumeral, yNumeral⟩ := coordinates.numerals
  rw [← xNumeral.read_iff, ← yNumeral.read_iff]
  simp only [isPoint_of_parts parts nonempty]
  constructor
  · rintro ⟨point, xValue, yValue, xRead, yRead, -⟩
    exact ⟨⟨xValue, xRead⟩, yValue, yRead⟩
  · rintro ⟨⟨xValue, xRead⟩, yValue, yRead⟩
    exact ⟨_, xValue, yValue, xRead, yRead, rfl⟩

/-- The search for a point in a line finds the parts at the last of its colons, or nothing when it
has none. -/
theorem search_colons {line : Text} (oneLine : '\n' ∉ line) :
    (colons line = ∅ → Pattern.point.search line = none) ∧
    ∀ position x y, IsGreatest (colons line) position →
      HasCoordinates (line.drop (position + 1)) x y →
      Pattern.point.search line = some [line.take position, x, y] := by
  rw [Pattern.search_point line oneLine]
  refine ⟨fun none => ?_, fun position x y greatest coordinates => ?_⟩
  · rw [Option.map_eq_none_iff, Option.eq_none_iff_forall_ne_some]
    rintro ⟨label, x, y⟩ found
    obtain ⟨parts, labelled⟩ := (pointParts_iff line label x y).1 found
    exact noParts_of_empty none labelled parts
  · rw [(pointParts_iff _ _ _ _).2 (hasParts_greatest greatest coordinates), Option.map_some]

/-- The last colon that coordinates follow decides about a line that begins like no comment and no
directive. Without such a colon the search for a point finds nothing, and the line adds no point.
Otherwise the search stops at this colon, whatever stands behind the colons before, and the line
adds a point exactly when each of the two numerals found there has a digit and at most one point.
The test for a colon and brackets lets the line pass. -/
theorem line_adds_point (line : Text) (isInline : Text.IsInline line) (nonempty : line ≠ [])
    (notComment : ¬"%%".toList <+: line) (unclaimed : ∀ keyword, ¬Claims keyword line) :
    (colons line = ∅ → Pattern.point.search line = none ∧ Adds line []) ∧
    ((colons line).Nonempty →
      looksLikePoint line = true ∧ ∃ position, IsGreatest (colons line) position) ∧
    ∀ position x y, IsGreatest (colons line) position →
      HasCoordinates (line.drop (position + 1)) x y →
      Pattern.point.search line = some [line.take position, x, y] ∧
      ((∃ point, Adds line [point]) ↔ IsDecimal x ∧ IsDecimal y) ∧
      (¬(IsDecimal x ∧ IsDecimal y) → Adds line []) ∧
      ∀ point, Adds line [point] → ∃ xValue yValue, Numeral.read? x = some xValue ∧
        Numeral.read? y = some yValue ∧
        point = .clamped (Text.trim (line.take position)) xValue yValue := by
  have isFree : IsFree line := ⟨isInline, nonempty, notComment, unclaimed⟩
  obtain ⟨searchNone, searchLast⟩ := search_colons isInline.oneLine
  refine ⟨fun none => ⟨searchNone none, ?_⟩,
    fun some => ⟨looksLikePoint_of_colons some, colons_greatest some⟩,
    fun position x y greatest coordinates => ⟨searchLast position x y greatest coordinates, ?_⟩⟩
  · apply isFree.adds_none
    rintro point ⟨label, x, y, -, -, parts, labelled, -⟩
    exact noParts_of_empty none labelled parts
  · obtain ⟨parts, labelled⟩ := hasParts_greatest greatest coordinates
    have decimals := exists_point_iff parts labelled
    simp only [isFree.adds_point]
    refine ⟨decimals, fun bad => isFree.adds_none fun point isPoint => ?_, fun point isPoint =>
      (isPoint_of_parts parts labelled point).1 isPoint⟩
    exact bad (decimals.1 ⟨point, isPoint⟩)

/-- Two points in a numeral reject a line whatever stands before it, and digits of another script
behind white space of another script add a point. -/
theorem line_adds_point_fragments :
    let rejected := "A: [0.1, 0.2] B:[.., -1] end".toList
    let added := "A: [0.1, 0.2] B:\u3000[-\u0663., .5]]".toList
    (Text.IsInline rejected ∧ rejected ≠ [] ∧ ¬"%%".toList <+: rejected ∧
      (∀ keyword, ¬Claims keyword rejected) ∧ IsGreatest (colons rejected) 15 ∧
      HasCoordinates (rejected.drop 16) "..".toList "-1".toList ∧ Adds rejected []) ∧
    (Text.IsInline added ∧ added ≠ [] ∧ ¬"%%".toList <+: added ∧
      (∀ keyword, ¬Claims keyword added) ∧ IsGreatest (colons added) 15 ∧
      HasCoordinates (added.drop 16) "-\u0663.".toList ".5".toList ∧
      ∃ point, Adds added [point]) := by
  intro rejected added
  have unclaimed : ∀ line ∈ [rejected, added], ∀ keyword, ¬Claims keyword line := by
    have each : ∀ line ∈ [rejected, added], ∀ keyword ∈ Keyword.all, ¬keyword.text <+: line := by
      decide
    exact fun line among keyword => each line among keyword (keyword_mem keyword)
  have inline : ∀ line ∈ [rejected, added], Text.IsInline line := by
    have each : ∀ line ∈ [rejected, added], Text.trim line = line ∧ '\n' ∉ line := by decide +kernel
    exact fun line among => ⟨(each line among).1, (each line among).2⟩
  constructor
  · have isInline := inline rejected (by simp)
    have free := unclaimed rejected (by simp)
    have last : IsGreatest (colons rejected) 15 := by decide +kernel
    have coordinates : HasCoordinates (rejected.drop 16) "..".toList "-1".toList := by
      decide +kernel
    obtain ⟨-, -, decides⟩ := line_adds_point rejected isInline (by decide) (by decide) free
    obtain ⟨-, -, bad, -⟩ := decides 15 _ _ last coordinates
    refine ⟨isInline, by decide, by decide, free, last, coordinates, bad fun both => ?_⟩
    exact absurd both.1.point (by decide)
  · have isInline := inline added (by simp)
    have free := unclaimed added (by simp)
    have last : IsGreatest (colons added) 15 := by decide +kernel
    have coordinates : HasCoordinates (added.drop 16) "-\u0663.".toList ".5".toList := by
      decide +kernel
    obtain ⟨-, -, decides⟩ := line_adds_point added isInline (by decide) (by decide) free
    obtain ⟨-, good, -⟩ := decides 15 _ _ last coordinates
    obtain ⟨xNumeral, yNumeral⟩ := coordinates.numerals
    refine ⟨isInline, by decide, by decide, free, last, coordinates, good.2 ⟨?_, ?_⟩⟩
    · exact ⟨xNumeral, List.any_eq_true.1 (by decide), by decide⟩
    · exact ⟨yNumeral, List.any_eq_true.1 (by decide), by decide⟩

end Source

end QuadrantChart
