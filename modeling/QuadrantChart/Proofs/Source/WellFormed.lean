/-
This file proves that every chart that is read is well formed: its texts stand on a line by
themselves, its axes are free of arrows, and its points have labels that read as labels again.
-/

import QuadrantChart.Proofs.Chart.Coordinates
import QuadrantChart.Proofs.Source.Directive
import QuadrantChart.Proofs.Text.Trim

namespace QuadrantChart

/-- The texts that a directive sets. -/
def Directive.texts : Directive → List Text
  | .title text => [text]
  | .xAxis axis => [axis.low, axis.high]
  | .yAxis axis => [axis.low, axis.high]
  | .caption _ text => [text]
  | .point added => [added.label]

/-- The texts of a chart: its title, its axis labels, its captions and the labels of its points. -/
def Chart.texts (chart : Chart) : List Text :=
  [chart.title, chart.xAxis.low, chart.xAxis.high, chart.yAxis.low, chart.yAxis.high,
    chart.captions.topRight, chart.captions.topLeft, chart.captions.bottomLeft,
    chart.captions.bottomRight] ++ chart.points.map Point.label

/-- Applying a directive brings its own texts into a chart and no others. -/
theorem Chart.apply_texts (chart : Chart) (directive : Directive) :
    (chart.apply directive).texts ⊆ directive.texts ++ chart.texts := by
  intro text member
  cases directive with
  | caption quadrant caption =>
    cases quadrant <;> grind [Chart.apply, Captions.set, Chart.texts, Directive.texts]
  | _ => grind [Chart.apply, Chart.texts, Directive.texts]

/-- What every text of a chart and every text of some directives satisfies, every text satisfies
that is in the chart after the directives. -/
theorem Chart.foldl_texts (holds : Text → Prop) (chart : Chart) (directives : List Directive)
    (initial : ∀ text ∈ chart.texts, holds text)
    (each : ∀ directive ∈ directives, ∀ text ∈ directive.texts, holds text) :
    ∀ text ∈ (directives.foldl Chart.apply chart).texts, holds text := by
  induction directives generalizing chart with
  | nil => exact initial
  | cons directive directives inductionHypothesis =>
    obtain ⟨first, others⟩ := List.forall_mem_cons.1 each
    apply inductionHypothesis _ _ others
    intro text member
    rcases List.mem_append.1 (chart.apply_texts directive member) with new | old
    · exact first text new
    · exact initial text old

/-- An axis between whose labels the arrow stands out. -/
structure Axis.LacksArrows (axis : Axis) : Prop where
  low : ¬Source.arrow <:+: axis.low
  high : ¬Source.arrow <:+: axis.high

/-- A point that its line could be read as: it is in the unit square, and its label begins neither
with the mark of a comment nor with a keyword. -/
structure Point.WellFormed (point : Point) : Prop where
  inSquare : point.InSquare
  labelled : point.label ≠ []
  notComment : ¬"%%".toList <+: point.label
  unclaimed : ∀ keyword, ¬Source.Claims keyword point.label

structure Chart.WellFormed (chart : Chart) : Prop where
  texts : ∀ text ∈ chart.texts, Text.IsInline text
  xAxis : chart.xAxis.LacksArrows
  yAxis : chart.yAxis.LacksArrows
  points : ∀ point ∈ chart.points, point.WellFormed

/-- What a directive of a well-formed chart is like. -/
structure Directive.WellFormed (directive : Directive) : Prop where
  texts : ∀ text ∈ directive.texts, Text.IsInline text
  xAxis : ∀ axis, directive = .xAxis axis → axis.LacksArrows
  yAxis : ∀ axis, directive = .yAxis axis → axis.LacksArrows
  point : ∀ point, directive = .point point → point.WellFormed

theorem Chart.WellFormed.apply {chart : Chart} (wellFormed : chart.WellFormed)
    {directive : Directive} (told : directive.WellFormed) :
    (chart.apply directive).WellFormed where
  texts := Chart.foldl_texts Text.IsInline chart [directive] wellFormed.texts
    (List.forall_mem_singleton.2 told.texts)
  xAxis := by
    cases directive with
    | xAxis axis => exact told.xAxis axis rfl
    | _ => exact wellFormed.xAxis
  yAxis := by
    cases directive with
    | yAxis axis => exact told.yAxis axis rfl
    | _ => exact wellFormed.yAxis
  points := by
    cases directive with
    | point point =>
      intro other member
      rcases List.mem_append.1 member with earlier | last
      · exact wellFormed.points other earlier
      · rw [List.mem_singleton.1 last]
        exact told.point point rfl
    | _ => exact wellFormed.points

theorem Chart.WellFormed.foldl {chart : Chart} (wellFormed : chart.WellFormed)
    (directives : List Directive) (each : ∀ directive ∈ directives, directive.WellFormed) :
    (directives.foldl Chart.apply chart).WellFormed := by
  induction directives generalizing chart with
  | nil => exact wellFormed
  | cons directive directives inductionHypothesis =>
    obtain ⟨first, others⟩ := List.forall_mem_cons.1 each
    exact inductionHypothesis (wellFormed.apply first) others

/-- The chart of a source without directives. -/
theorem Chart.default_wellFormed : Chart.WellFormed {} := by
  have empty : Text.IsInline [] := ⟨rfl, by simp⟩
  have title : Text.IsInline "Quadrant Chart".toList := ⟨by decide +kernel, by decide⟩
  have axis : Axis.LacksArrows {} := ⟨by decide, by decide⟩
  refine ⟨?_, axis, axis, by simp⟩
  simp only [Chart.texts, List.map_nil, List.append_nil, List.forall_mem_cons]
  exact ⟨title, empty, empty, empty, empty, empty, empty, empty, empty, by simp⟩

namespace Source

/-- What a line says it says in a part of it, without the blank ends of the part. -/
theorem said_texts {line : Text} {directive : Directive} (told : Says line directive) :
    ∀ text ∈ directive.texts, ∃ part, part <:+: line ∧ text = Text.trim part := by
  have ofText {keyword : Keyword} {text : Text} (said : SaysText keyword line text) :
      ∃ part, part <:+: line ∧ text = Text.trim part := by
    obtain ⟨rest, rfl, rfl⟩ := said
    exact ⟨rest, (List.suffix_append _ rest).isInfix, rfl⟩
  have ofAxis {keyword : Keyword} {axis : Axis} (said : SaysAxis keyword line axis) :
      ∀ text ∈ [axis.low, axis.high], ∃ part, part <:+: line ∧ text = Text.trim part := by
    obtain ⟨low, high, rfl, -, -, rfl⟩ := said
    refine List.forall_mem_cons.2 ⟨⟨low, ?_, rfl⟩, List.forall_mem_singleton.2 ⟨high, ?_, rfl⟩⟩
    · exact ⟨keyword.text, arrow ++ high, by simp⟩
    · exact ⟨keyword.text ++ (low ++ arrow), [], by simp⟩
  cases directive with
  | title text => exact List.forall_mem_singleton.2 (ofText told)
  | xAxis axis => exact ofAxis told
  | yAxis axis => exact ofAxis told
  | caption quadrant text => exact List.forall_mem_singleton.2 (ofText told)
  | point point =>
    obtain ⟨-, label, xText, yText, x, y, ⟨rest, rfl, -⟩, -, -, -, rfl⟩ := told
    exact List.forall_mem_singleton.2 ⟨label, (List.prefix_append label _).isInfix, rfl⟩

theorem saidAxis_lacksArrows {keyword : Keyword} {line : Text} {axis : Axis}
    (said : SaysAxis keyword line axis) : axis.LacksArrows := by
  obtain ⟨low, high, -, noneLow, noneHigh, rfl⟩ := said
  exact ⟨fun found => noneLow (found.trans (Text.trim_within low)),
    fun found => noneHigh (found.trans (Text.trim_within high))⟩

/-- The label of a point is not empty, and it begins as the line does. -/
theorem label_begins {line : Text} {point : Point} (trimmed : Text.trim line = line)
    (isPoint : IsPoint line point) : point.label ≠ [] ∧ point.label <+: line := by
  obtain ⟨label, xText, yText, x, y, ⟨rest, rfl, -⟩, nonempty, -, -, rfl⟩ := isPoint
  obtain ⟨first, others, rfl⟩ := List.exists_cons_of_ne_nil nonempty
  have visible : Text.isBlank first = false := Text.visible_of_trimmed trimmed
  obtain ⟨kept, begins, shorter⟩ := Text.trim_visible first others visible
  rw [begins]
  refine ⟨List.cons_ne_nil _ _, ?_⟩
  exact (List.prefix_cons_inj first).2 (shorter.trans (List.prefix_append others _))

theorem said_wellFormed {line : Text} {directive : Directive} (isInline : Text.IsInline line)
    (notComment : ¬"%%".toList <+: line) (told : Says line directive) : directive.WellFormed where
  texts := by
    intro text member
    obtain ⟨part, within, rfl⟩ := said_texts told text member
    exact Text.trim_isInline fun newline => isInline.oneLine (within.subset newline)
  xAxis := by
    rintro axis rfl
    exact saidAxis_lacksArrows told
  yAxis := by
    rintro axis rfl
    exact saidAxis_lacksArrows told
  point := by
    rintro point rfl
    obtain ⟨unclaimed, isPoint⟩ := told
    obtain ⟨labelled, begins⟩ := label_begins isInline.trimmed isPoint
    have inSquare : point.InSquare := by
      obtain ⟨label, xText, yText, x, y, -, -, -, -, rfl⟩ := isPoint
      exact Point.clamped_inSquare _ x y
    exact ⟨inSquare, labelled, fun comment => notComment (comment.trans begins),
      fun keyword claims => unclaimed keyword (claims.trans begins)⟩

/-- A directive of a source is what one of its lines says. -/
theorem directive_said {source : Text} {directive : Directive}
    (member : directive ∈ directives source) :
    ∃ line ∈ lines source, ¬"%%".toList <+: line ∧ Says line directive := by
  obtain ⟨line, among, read⟩ := List.mem_filterMap.1 member
  obtain ⟨speaks, told⟩ := read_says read
  exact ⟨line, among, speaks.2, told⟩

theorem chart_wellFormed (source : Text) : (chart source).WellFormed := by
  apply Chart.default_wellFormed.foldl
  intro directive member
  obtain ⟨line, among, notComment, told⟩ := directive_said member
  obtain ⟨part, raw, rfl⟩ := List.mem_map.1 among
  exact said_wellFormed (Text.trim_isInline (Text.splitOn_part '\n' source part raw).1) notComment
    told

/-- Whatever the lines of a source are, the points of its chart lie in the unit square under labels
that begin like no comment and no directive, its texts stand on a line by themselves, and its axis
labels are free of arrows. -/
theorem chart_texts_and_points (source : Text) :
    (∀ point ∈ (chart source).points, point.x.InUnit ∧ point.y.InUnit ∧ point.label ≠ [] ∧
      ∀ word ∈ ["%%", "title", "x-axis", "y-axis", "quadrant-1", "quadrant-2", "quadrant-3",
        "quadrant-4"], ¬word.toList <+: point.label) ∧
    (∀ text ∈ (chart source).texts, Text.trim text = text ∧ '\n' ∉ text) ∧
    ∀ label ∈ [(chart source).xAxis.low, (chart source).xAxis.high, (chart source).yAxis.low,
      (chart source).yAxis.high], ¬"-->".toList <:+: label := by
  obtain ⟨texts, xAxis, yAxis, points⟩ := chart_wellFormed source
  refine ⟨fun point member => ?_, fun text member => ?_, ?_⟩
  · obtain ⟨inSquare, labelled, notComment, unclaimed⟩ := points point member
    refine ⟨inSquare.x, inSquare.y, labelled, ?_⟩
    simp only [List.forall_mem_cons]
    exact ⟨notComment, unclaimed .title, unclaimed .xAxis, unclaimed .yAxis,
      unclaimed (.caption .topRight), unclaimed (.caption .topLeft),
      unclaimed (.caption .bottomLeft), unclaimed (.caption .bottomRight), by simp⟩
  · exact ⟨(texts text member).trimmed, (texts text member).oneLine⟩
  · simp only [List.forall_mem_cons]
    exact ⟨xAxis.low, xAxis.high, yAxis.low, yAxis.high, by simp⟩

end Source

end QuadrantChart
