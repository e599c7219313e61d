/-
This file writes charts as sources, and proves that what is written is read back without a skipped
line.
-/

import QuadrantChart.Proofs.Source.Decimal
import QuadrantChart.Proofs.Source.SkipLog
import QuadrantChart.Proofs.Source.WellFormed
import QuadrantChart.Proofs.Text.Split

namespace QuadrantChart

/-- A point as it is written, with a numeral for each coordinate. -/
structure WrittenPoint where
  label : Text
  x : Text
  y : Text

/-- A chart as it is written. -/
structure WrittenChart where
  title : Text
  xAxis : Axis
  yAxis : Axis
  captions : Captions
  points : List WrittenPoint

namespace Source

def textLine (keyword : Keyword) (text : Text) : Text :=
  keyword.text ++ ' ' :: text

def axisLine (keyword : Keyword) (axis : Axis) : Text :=
  keyword.text ++ ' ' :: axis.low ++ ' ' :: arrow ++ ' ' :: axis.high

end Source

namespace WrittenPoint

def line (point : WrittenPoint) : Text :=
  point.label ++ ": [".toList ++ point.x ++ ", ".toList ++ point.y ++ [']']

/-- A point that reads as itself: its label begins neither with the mark of a comment nor with a
keyword. -/
structure WellFormed (point : WrittenPoint) : Prop where
  labelled : point.label ≠ []
  notComment : ¬"%%".toList <+: point.label
  unclaimed : ∀ keyword, ¬Source.Claims keyword point.label
  x : Source.IsDecimal point.x
  y : Source.IsDecimal point.y

/-- The point that the numerals place. -/
def Denotes (written : WrittenPoint) (point : Point) : Prop :=
  ∃ x y, Numeral.read? written.x = some x ∧ Numeral.read? written.y = some y ∧
    point = .clamped written.label x y

end WrittenPoint

namespace WrittenChart

def lines (written : WrittenChart) : List Text :=
  [Source.textLine .title written.title, Source.axisLine .xAxis written.xAxis,
    Source.axisLine .yAxis written.yAxis,
    Source.textLine (.caption .topRight) written.captions.topRight,
    Source.textLine (.caption .topLeft) written.captions.topLeft,
    Source.textLine (.caption .bottomLeft) written.captions.bottomLeft,
    Source.textLine (.caption .bottomRight) written.captions.bottomRight] ++
    written.points.map WrittenPoint.line

/-- The lines of a chart with a line feed between any two of them. -/
def source (written : WrittenChart) : Text :=
  Text.join ['\n'] written.lines

def texts (written : WrittenChart) : List Text :=
  [written.title, written.xAxis.low, written.xAxis.high, written.yAxis.low, written.yAxis.high,
    written.captions.topRight, written.captions.topLeft, written.captions.bottomLeft,
    written.captions.bottomRight] ++ written.points.map WrittenPoint.label

structure WellFormed (written : WrittenChart) : Prop where
  texts : ∀ text ∈ written.texts, Text.IsInline text
  xAxis : written.xAxis.LacksArrows
  yAxis : written.yAxis.LacksArrows
  points : ∀ point ∈ written.points, point.WellFormed

end WrittenChart

namespace Source

theorem keyword_visible (keyword : Keyword) : Text.VisibleEnds keyword.text := by
  rcases keyword with _ | _ | _ | (_ | _ | _ | _) <;> exact ⟨by decide, by decide⟩

/-- The text behind a keyword is what its line says. -/
theorem says_textLine (keyword : Keyword) {text : Text} (isInline : Text.IsInline text) :
    SaysText keyword (Text.trim (textLine keyword text)) text := by
  obtain ⟨kept, space, parts, blank, trimmed⟩ :=
    (keyword_visible keyword).trim_append (' ' :: text)
  refine ⟨kept, trimmed, ?_⟩
  calc
    text = Text.trim ([' '] ++ text) := by
      rw [Text.trim_blank_append _ _ Text.space_blank, isInline.trimmed]
    _ = Text.trim (kept ++ space) := congrArg Text.trim parts
    _ = Text.trim kept := Text.trim_append_blank kept space blank

/-- Spaces around a text make no arrow. -/
theorem arrow_spaced {text : Text} (none : ¬arrow <:+: text) :
    ¬arrow <:+: ' ' :: text ++ [' '] := by
  rw [List.infix_concat_iff, not_or]
  constructor
  · rintro ⟨before, equal⟩
    have last := congrArg List.getLast? equal
    rw [List.getLast?_append, List.getLast?_concat] at last
    cases last
  · rwa [arrow_infix_cons _ _ fun after minus => by cases minus]

/-- The labels around the arrow are what the line of an axis says. -/
theorem says_axisLine (keyword : Keyword) {axis : Axis} (low : Text.IsInline axis.low)
    (high : Text.IsInline axis.high) (lacks : axis.LacksArrows) :
    SaysAxis keyword (Text.trim (axisLine keyword axis)) axis := by
  have arrowVisible : Text.VisibleEnds arrow := ⟨by decide, by decide⟩
  obtain ⟨kept, space, parts, blank, trimmed⟩ :=
    ((keyword_visible keyword).append arrowVisible (' ' :: axis.low ++ [' '])).trim_append
      (' ' :: axis.high)
  have line : axisLine keyword axis =
      keyword.text ++ (' ' :: axis.low ++ [' ']) ++ arrow ++ ' ' :: axis.high := by
    simp [axisLine]
  refine ⟨' ' :: axis.low ++ [' '], kept, ?_, arrow_spaced lacks.low, fun found => ?_, ?_⟩
  · rw [line, trimmed]
    simp only [List.append_assoc]
  · have shorter : kept <+: ' ' :: axis.high := ⟨space, parts.symm⟩
    exact arrow_spaced lacks.high ((found.trans shorter.isInfix).trans ⟨[], [' '], rfl⟩)
  · have lowKept : Text.trim (' ' :: axis.low ++ [' ']) = axis.low := by
      rw [Text.trim_append_blank _ _ Text.space_blank]
      exact (Text.trim_blank_append [' '] _ Text.space_blank).trans low.trimmed
    have highKept : Text.trim kept = axis.high := by
      rw [← Text.trim_append_blank kept space blank, ← parts]
      exact (Text.trim_blank_append [' '] _ Text.space_blank).trans high.trimmed
    rw [lowKept, highKept]

/-- The characters of a numeral. -/
theorem numeral_lacks {numeral : Text} (isNumeral : IsNumeral numeral) {char : Char}
    (other : isNumeralPart char = false) (notMinus : char ≠ '-') : char ∉ numeral := by
  obtain ⟨sign, parts, rfl, signed, -, all⟩ := isNumeral
  intro member
  rcases List.mem_append.1 member with inSign | inParts
  · rcases signed with rfl | rfl
    · cases inSign
    · exact notMinus (List.mem_singleton.1 inSign)
  · rw [all char inParts] at other
    cases other

theorem lacksParts_of_notMem {text : Text} (none : ':' ∉ text) : LacksParts text := by
  rintro label rest rfl
  exact absurd (List.mem_append_right _ (.head _)) none

theorem prefix_before {start text rest : Text} {char : Char}
    (begins : start <+: text ++ char :: rest) (none : char ∉ start) : start <+: text := by
  rcases List.prefix_or_prefix_of_prefix begins (List.prefix_append text (char :: rest)) with
    shorter | ⟨behind, longer⟩
  · exact shorter
  · obtain ⟨after, equal⟩ := begins
    rw [← longer, List.append_assoc] at equal
    cases behind with
    | nil =>
      rw [List.append_nil] at longer
      exact longer ▸ List.prefix_rfl
    | cons first others =>
      cases List.append_cancel_left equal
      rw [← longer] at none
      exact absurd (List.mem_append_right _ (.head _)) none

/-- Behind the label of a point stand its coordinates, in which no other point begins. -/
theorem line_hasParts {point : WrittenPoint} (x : IsNumeral point.x) (y : IsNumeral point.y) :
    HasParts point.line point.label point.x point.y := by
  have line : point.line = point.label ++ ':' :: (' ' :: '[' ::
      (point.x ++ ',' :: (' ' :: point.y ++ [']']))) := by
    simp [WrittenPoint.line]
  have space : Text.IsBlank [' '] := Text.space_blank
  refine ⟨_, line, ⟨[' '], [' '], [], rfl, space, space, x, y⟩, lacksParts_of_notMem ?_⟩
  have noneInX : ':' ∉ point.x := numeral_lacks x (by decide) (by decide)
  have noneInY : ':' ∉ point.y := numeral_lacks y (by decide) (by decide)
  simp [noneInX, noneInY]

/-- The line of a point begins with its label and says the point. -/
theorem says_line {written : WrittenPoint} (isInline : Text.IsInline written.label)
    (wellFormed : written.WellFormed) {point : Point} (denotes : written.Denotes point) :
    Text.trim written.line = written.line ∧ written.line ≠ [] ∧
      ¬"%%".toList <+: written.line ∧ Says written.line (.point point) := by
  obtain ⟨x, y, xRead, yRead, rfl⟩ := denotes
  have parts := line_hasParts wellFormed.x.numeral wellFormed.y.numeral
  obtain ⟨coordinates, line, -⟩ := id parts
  obtain ⟨first, others, label⟩ := List.exists_cons_of_ne_nil wellFormed.labelled
  refine ⟨?_, ?_, fun comment => ?_, fun keyword claims => ?_,
    _, _, _, x, y, parts, wellFormed.labelled, xRead, yRead, by rw [isInline.trimmed]⟩
  · have trimmed := isInline.trimmed
    rw [label] at trimmed
    have visible := Text.visible_of_trimmed trimmed
    have ends : Text.VisibleEnds written.line := by
      have opens : Text.VisibleEnds [first] := ⟨by simp [visible], by simp [visible]⟩
      have closes : Text.VisibleEnds [']'] := ⟨by decide, by decide⟩
      have whole := opens.append closes
        (others ++ ": [".toList ++ written.x ++ ", ".toList ++ written.y)
      rw [WrittenPoint.line, label]
      exact whole
    exact ends.trimmed
  · rw [line]
    simp
  · rw [line] at comment
    exact wellFormed.notComment (prefix_before comment (by decide))
  · rw [line] at claims
    refine wellFormed.unclaimed keyword (prefix_before claims ?_)
    rcases keyword with _ | _ | _ | (_ | _ | _ | _) <;> decide

theorem readLine_said {keyword : Keyword} {line : Text} {directive : Directive}
    (own : directive.keyword? = some keyword) (told : Says line directive) :
    readLine line = .directive directive := by
  have claims := said_claims told
  rw [own] at claims
  obtain ⟨nonempty, notComment⟩ := claimed_speaks claims
  exact Line.directive_some.1 ((readLine_iff nonempty notComment directive).2 told)

theorem readLine_point {written : WrittenPoint} (isInline : Text.IsInline written.label)
    (wellFormed : written.WellFormed) {point : Point} (denotes : written.Denotes point) :
    readLine (Text.trim written.line) = .directive (.point point) := by
  obtain ⟨trimmed, nonempty, notComment, told⟩ := says_line isInline wellFormed denotes
  rw [trimmed]
  exact Line.directive_some.1 ((readLine_iff nonempty notComment _).2 told)

end Source

theorem WrittenPoint.WellFormed.denotes {written : WrittenPoint} (wellFormed : written.WellFormed) :
    ∃ point, written.Denotes point := by
  obtain ⟨x, xRead⟩ := wellFormed.x.read
  obtain ⟨y, yRead⟩ := wellFormed.y.read
  exact ⟨_, x, y, xRead, yRead, rfl⟩

theorem Chart.foldl_points (chart : Chart) (points : List Point) :
    (points.map Directive.point).foldl Chart.apply chart =
      { chart with points := chart.points ++ points } := by
  induction points generalizing chart with
  | nil => simp
  | cons point points inductionHypothesis =>
    rw [List.map_cons, List.foldl_cons, inductionHypothesis]
    simp [Chart.apply]

namespace WrittenChart

variable {written : WrittenChart} {points : List Point}

/-- The directives of the lines, with a point for each written one. -/
def directives (written : WrittenChart) (points : List Point) : List Directive :=
  [.title written.title, .xAxis written.xAxis, .yAxis written.yAxis,
    .caption .topRight written.captions.topRight, .caption .topLeft written.captions.topLeft,
    .caption .bottomLeft written.captions.bottomLeft,
    .caption .bottomRight written.captions.bottomRight] ++ points.map .point

theorem WellFormed.label_isInline (wellFormed : written.WellFormed) :
    ∀ point ∈ written.points, Text.IsInline point.label := fun _ member =>
  wellFormed.texts _ (List.mem_append_right _ (List.mem_map_of_mem member))

theorem WellFormed.denotes (wellFormed : written.WellFormed) :
    ∃ points, List.Forall₂ WrittenPoint.Denotes written.points points := by
  have each : ∀ point ∈ written.points, ∃ denoted, WrittenPoint.Denotes point denoted :=
    fun point member => (wellFormed.points point member).denotes
  generalize written.points = all at each ⊢
  clear wellFormed
  induction all with
  | nil => exact ⟨[], .nil⟩
  | cons point others inductionHypothesis =>
    obtain ⟨first, later⟩ := List.forall_mem_cons.1 each
    obtain ⟨denoted, here⟩ := first
    obtain ⟨points, rest⟩ := inductionHypothesis later
    exact ⟨denoted :: points, .cons here rest⟩

theorem WellFormed.points_read (wellFormed : written.WellFormed)
    (denotes : List.Forall₂ WrittenPoint.Denotes written.points points) :
    (written.points.map WrittenPoint.line).map (Source.readLine ∘ Text.trim) =
      (points.map Directive.point).map .directive := by
  have inlines := wellFormed.label_isInline
  have each := wellFormed.points
  clear wellFormed
  generalize written.points = all at *
  induction denotes with
  | nil => rfl
  | cons first others inductionHypothesis =>
    obtain ⟨isInline, laterInline⟩ := List.forall_mem_cons.1 inlines
    obtain ⟨isPoint, laterPoints⟩ := List.forall_mem_cons.1 each
    have read := Source.readLine_point isInline isPoint first
    simp only [List.map_cons, Function.comp_apply, read] at inductionHypothesis ⊢
    rw [inductionHypothesis laterInline laterPoints]

/-- Every line reads as its directive. -/
theorem WellFormed.lines_read (wellFormed : written.WellFormed)
    (denotes : List.Forall₂ WrittenPoint.Denotes written.points points) :
    (written.lines.map Text.trim).map Source.readLine =
      (written.directives points).map .directive := by
  have texts := wellFormed.texts
  simp only [WrittenChart.texts, List.forall_mem_append, List.forall_mem_cons] at texts
  obtain ⟨⟨title, xLow, xHigh, yLow, yHigh, topRight, topLeft, bottomLeft, bottomRight, -⟩, -⟩ :=
    texts
  have titleRead : Source.readLine (Text.trim (Source.textLine .title written.title)) =
      .directive (.title written.title) := Source.readLine_said rfl (Source.says_textLine _ title)
  have xAxisRead : Source.readLine (Text.trim (Source.axisLine .xAxis written.xAxis)) =
      .directive (.xAxis written.xAxis) :=
    Source.readLine_said rfl (Source.says_axisLine _ xLow xHigh wellFormed.xAxis)
  have yAxisRead : Source.readLine (Text.trim (Source.axisLine .yAxis written.yAxis)) =
      .directive (.yAxis written.yAxis) :=
    Source.readLine_said rfl (Source.says_axisLine _ yLow yHigh wellFormed.yAxis)
  have captionRead (quadrant : Quadrant) {text : Text} (isInline : Text.IsInline text) :
      Source.readLine (Text.trim (Source.textLine (.caption quadrant) text)) =
        .directive (.caption quadrant text) :=
    Source.readLine_said rfl (Source.says_textLine (.caption quadrant) isInline)
  simp only [lines, directives, List.map_append, List.map_map, ← wellFormed.points_read denotes,
    List.map_cons, List.map_nil, titleRead, xAxisRead, yAxisRead,
    captionRead _ topRight, captionRead _ topLeft, captionRead _ bottomLeft,
    captionRead _ bottomRight]
  rfl

theorem WellFormed.lines_clean (wellFormed : written.WellFormed) :
    ∀ line ∈ written.lines, '\n' ∉ line := by
  have keyword (keyword : Keyword) : '\n' ∉ keyword.text := by
    rcases keyword with _ | _ | _ | (_ | _ | _ | _) <;> decide
  have arrow : '\n' ∉ Source.arrow := by decide
  have texts := fun text member => (wellFormed.texts text member).oneLine
  simp only [WrittenChart.texts, List.forall_mem_append, List.forall_mem_cons] at texts
  obtain ⟨⟨title, xLow, xHigh, yLow, yHigh, topRight, topLeft, bottomLeft, bottomRight, -⟩,
    labels⟩ := texts
  simp only [lines, List.forall_mem_append, List.forall_mem_cons]
  refine ⟨⟨?_, ?_, ?_, ?_, ?_, ?_, ?_, by simp⟩, fun line member => ?_⟩
  all_goals try simp [Source.textLine, Source.axisLine, *]
  obtain ⟨point, among, rfl⟩ := List.mem_map.1 member
  have label := labels _ (List.mem_map_of_mem among)
  have x : '\n' ∉ point.x :=
    Source.numeral_lacks (wellFormed.points point among).x.numeral (by decide) (by decide)
  have y : '\n' ∉ point.y :=
    Source.numeral_lacks (wellFormed.points point among).y.numeral (by decide) (by decide)
  simp [WrittenPoint.line, label, x, y]

/-- The directives of a written chart make its chart. -/
theorem directives_chart (written : WrittenChart) (points : List Point) :
    (written.directives points).foldl Chart.apply {} =
      ⟨written.title, written.xAxis, written.yAxis, written.captions, points⟩ := by
  rw [directives, List.foldl_append, Chart.foldl_points]
  rfl

end WrittenChart

/-- Every well-formed chart that is written as a source, with or without a last line feed, is read
back with all its texts and points, and no line of it is skipped. -/
theorem Source.chart_written (written : WrittenChart) (wellFormed : written.WellFormed)
    (ending : Text) (isEnding : ending ∈ [[], ['\n']]) :
    (∃ points, List.Forall₂ WrittenPoint.Denotes written.points points ∧
      chart (written.source ++ ending) =
        ⟨written.title, written.xAxis, written.yAxis, written.captions, points⟩) ∧
      skips (written.source ++ ending) = [] := by
  obtain ⟨points, denotes⟩ := wellFormed.denotes
  have nonempty : written.lines ≠ [] := List.cons_ne_nil _ _
  have clean := wellFormed.lines_clean
  obtain ⟨silent, parts, quiet⟩ : ∃ silent, lines (written.source ++ ending) =
      written.lines.map Text.trim ++ silent ∧ ∀ line ∈ silent, readLine line = .silent := by
    rcases List.mem_cons.1 isEnding with rfl | isLast
    · refine ⟨[], ?_, by simp⟩
      rw [List.append_nil, List.append_nil, lines, Text.lines, WrittenChart.source,
        Text.splitOn_join nonempty clean]
    · rw [List.mem_singleton.1 isLast]
      have joined := Text.join_concat ['\n'] nonempty []
      refine ⟨[[]], ?_, by simp [readLine]⟩
      rw [List.append_nil] at joined
      rw [lines, Text.lines, WrittenChart.source, ← joined, Text.splitOn_join (by simp),
        List.map_append]
      · rfl
      · exact List.forall_mem_append.2 ⟨clean, by simp⟩
  obtain ⟨told, none⟩ := directives_told parts (wellFormed.lines_read denotes) quiet
  refine ⟨⟨points, denotes, ?_⟩, none⟩
  rw [chart, told, written.directives_chart]

/-- A label that holds another point, captions like other lines, empty labels and digits of another
script are all read back. -/
theorem Source.chart_written_fragments :
    let written : WrittenChart :=
      ⟨"--> ->".toList, ⟨[], ">-".toList⟩, ⟨"x-axis --".toList, []⟩,
        ⟨"0 ten".toList, [], "%% no".toList, "A: [1, 1]".toList⟩,
        [⟨"a: [0.1, 0.2] b: [".toList, "-.5".toList, "\u0663.".toList⟩]⟩
    (written.WellFormed ∧ ['\n'] ∈ [[], ['\n']]) ∧
      (∃ points, List.Forall₂ WrittenPoint.Denotes written.points points ∧
        chart (written.source ++ ['\n']) =
          ⟨written.title, written.xAxis, written.yAxis, written.captions, points⟩) ∧
      skips (written.source ++ ['\n']) = [] := by
  intro written
  have texts : ∀ text ∈ written.texts, Text.IsInline text := by
    have each : ∀ text ∈ written.texts, Text.trim text = text ∧ '\n' ∉ text := by decide +kernel
    exact fun text member => ⟨(each text member).1, (each text member).2⟩
  have points : ∀ point ∈ written.points, point.WellFormed := by
    have unclaimed : ∀ keyword ∈ Keyword.all,
        ¬keyword.text <+: "a: [0.1, 0.2] b: [".toList := by decide
    intro point member
    obtain rfl := List.mem_singleton.1 member
    refine ⟨by decide, by decide, fun keyword => unclaimed keyword (keyword_mem keyword), ?_, ?_⟩
    · exact ⟨⟨"-".toList, ".5".toList, rfl, .inr rfl, by decide, List.all_eq_true.1 (by decide)⟩,
        List.any_eq_true.1 (by decide), by decide⟩
    · exact ⟨⟨[], "\u0663.".toList, rfl, .inl rfl, by decide, List.all_eq_true.1 (by decide)⟩,
        List.any_eq_true.1 (by decide), by decide⟩
  have wellFormed : written.WellFormed :=
    ⟨texts, ⟨by decide, by decide +kernel⟩, ⟨by decide +kernel, by decide⟩, points⟩
  have isEnding : ['\n'] ∈ [[], ['\n']] := by decide
  exact ⟨⟨wellFormed, isEnding⟩, chart_written written wellFormed ['\n'] isEnding⟩

end QuadrantChart
