/-
This file says what a source means, and proves that reading it gives this meaning. Each part of a
chart comes from the last line that says it, and points come from their lines in order.
-/

import Mathlib.Data.List.Forall2
import Mathlib.Data.List.Induction
import QuadrantChart.Proofs.Source.Directive

namespace QuadrantChart

/-- The caption of a quadrant. -/
def Captions.text (captions : Captions) : Quadrant → Text
  | .topRight => captions.topRight
  | .topLeft => captions.topLeft
  | .bottomLeft => captions.bottomLeft
  | .bottomRight => captions.bottomRight

@[simp]
theorem Captions.text_set (captions : Captions) (quadrant other : Quadrant) (text : Text) :
    (captions.set quadrant text).text other =
      if quadrant = other then text else captions.text other := by
  cases quadrant <;> cases other <;> rfl

namespace Source

/-- The lines of a source that are neither blank nor comments. -/
def significant (source : Text) : List Text :=
  (lines source).filter fun line => line ≠ [] ∧ ¬"%%".toList <+: line

/-- The value of the last line that says one, or the default when no line does. -/
inductive LastSaid {Value : Type} (Says : Text → Value → Prop) (default : Value)
    (lines : List Text) : Value → Prop where
  | said {value : Value} (before after : List Text) (line : Text)
      (parts : lines = before ++ line :: after) (told : Says line value)
      (last : ∀ later ∈ after, ∀ other, ¬Says later other) : LastSaid Says default lines value
  | unsaid (silent : ∀ line ∈ lines, ∀ value, ¬Says line value) :
      LastSaid Says default lines default

instance (line : Text) : Decidable (∃ point, Says line (.point point)) :=
  decidable_of_iff
    ((∀ keyword ∈ Keyword.all, ¬keyword.text <+: line) ∧ (point? line).isSome = true) (by
      simp only [Option.isSome_iff_exists, point_iff]
      constructor
      · rintro ⟨unclaimed, point, isPoint⟩
        exact ⟨point, fun keyword => unclaimed keyword (keyword_mem keyword), isPoint⟩
      · rintro ⟨point, unclaimed, isPoint⟩
        exact ⟨fun keyword _ => unclaimed keyword, point, isPoint⟩)

/-- A chart with each part as the last line for it says, and a point for each line that is one. -/
structure Describes (lines : List Text) (chart : Chart) : Prop where
  title : LastSaid (fun line text => Says line (.title text)) "Quadrant Chart".toList lines
    chart.title
  xAxis : LastSaid (fun line axis => Says line (.xAxis axis)) ⟨[], []⟩ lines chart.xAxis
  yAxis : LastSaid (fun line axis => Says line (.yAxis axis)) ⟨[], []⟩ lines chart.yAxis
  captions : ∀ quadrant, LastSaid (fun line text => Says line (.caption quadrant text)) [] lines
    (chart.captions.text quadrant)
  points : List.Forall₂ (fun line point => Says line (.point point))
    (lines.filter fun line => ∃ point, Says line (.point point)) chart.points

end Source

/-- Charts that differ at most in what a keyword sets. -/
structure Chart.AgreeExcept (keyword : Keyword) (left right : Chart) : Prop where
  title : keyword ≠ .title → left.title = right.title
  xAxis : keyword ≠ .xAxis → left.xAxis = right.xAxis
  yAxis : keyword ≠ .yAxis → left.yAxis = right.yAxis
  captions : ∀ quadrant, keyword ≠ .caption quadrant →
    left.captions.text quadrant = right.captions.text quadrant
  points : left.points = right.points

namespace Source

/-- The chart that significant lines describe. -/
def chartOf (lines : List Text) : Chart :=
  (lines.filterMap fun line => (readLine line).directive?).foldl Chart.apply {}

/-- Blank lines and comments add nothing to a chart. -/
theorem chart_significant (source : Text) : chart source = chartOf (significant source) := by
  have silent (line : Text) : (readLine line).directive? =
      if line ≠ [] ∧ ¬"%%".toList <+: line then (readLine line).directive? else none := by
    by_cases speaks : line ≠ [] ∧ ¬"%%".toList <+: line
    · rw [if_pos speaks]
    · rw [if_neg speaks, readLine_unspoken speaks]
      rfl
  rw [chart, directives, chartOf, significant, List.filterMap_filter]
  congr 1
  exact List.filterMap_congr fun line _ => by simpa using silent line

theorem significant_line {source line : Text} (member : line ∈ significant source) :
    line ≠ [] ∧ ¬"%%".toList <+: line :=
  of_decide_eq_true (List.mem_filter.1 member).2

theorem chartOf_snoc (lines : List Text) (line : Text) :
    chartOf (lines ++ [line]) =
      match (readLine line).directive? with
      | some directive => (chartOf lines).apply directive
      | none => chartOf lines := by
  rw [chartOf, List.filterMap_append, List.foldl_append]
  cases read : (readLine line).directive? <;> simp [read, chartOf]

/-- What the last line says replaces what was said before. -/
theorem LastSaid.snoc_said {Value : Type} {Says : Text → Value → Prop} {default value : Value}
    (lines : List Text) {line : Text} (told : Says line value) :
    LastSaid Says default (lines ++ [line]) value :=
  .said lines [] line rfl told fun later member => by cases member

/-- A last line that says nothing changes nothing. -/
theorem LastSaid.snoc_silent {Value : Type} {Says : Text → Value → Prop} {default value : Value}
    {lines : List Text} (lastSaid : LastSaid Says default lines value) {line : Text}
    (silent : ∀ other, ¬Says line other) : LastSaid Says default (lines ++ [line]) value := by
  cases lastSaid with
  | said before after earlier parts told last =>
    refine .said before (after ++ [line]) earlier ?_ told fun later member => ?_
    · rw [parts, List.append_assoc, List.cons_append]
    · rcases List.mem_append.1 member with among | new
      · exact last later among
      · rw [List.mem_singleton.1 new]
        exact silent
  | unsaid none =>
    refine .unsaid fun other member => ?_
    rcases List.mem_append.1 member with among | new
    · exact none other among
    · rw [List.mem_singleton.1 new]
      exact silent

/-- A part of a chart that one kind of directive sets, and that every other directive keeps, is what
the last line with a directive of this kind says. -/
theorem chartOf_lastSaid {Value : Type} (make : Value → Directive) (part : Chart → Value)
    (sets : ∀ (chart : Chart) value, part (chart.apply (make value)) = value)
    (keeps : ∀ (chart : Chart) directive, (∀ value, directive ≠ make value) →
      part (chart.apply directive) = part chart)
    (lines : List Text) (speak : ∀ line ∈ lines, line ≠ [] ∧ ¬"%%".toList <+: line) :
    LastSaid (fun line value => Says line (make value)) (part {}) lines (part (chartOf lines)) := by
  induction lines using List.reverseRecOn with
  | nil => exact .unsaid fun line member => by cases member
  | append_singleton lines line inductionHypothesis =>
    have earlier := inductionHypothesis fun other member =>
      speak other (List.mem_append_left _ member)
    obtain ⟨nonempty, notComment⟩ := speak line (List.mem_append_right _ (.head _))
    have read := readLine_iff nonempty notComment
    rw [chartOf_snoc]
    cases found : (readLine line).directive? with
    | none =>
      refine earlier.snoc_silent fun value told => ?_
      cases found.symm.trans ((read _).2 told)
    | some directive =>
      by_cases made : ∃ value, directive = make value
      · obtain ⟨value, rfl⟩ := made
        simp only [sets]
        exact .snoc_said lines ((read _).1 found)
      · rw [not_exists] at made
        simp only [keeps _ _ made]
        refine earlier.snoc_silent fun value told => made value ?_
        exact Option.some.inj (found.symm.trans ((read _).2 told))

theorem chartOf_points (lines : List Text)
    (speak : ∀ line ∈ lines, line ≠ [] ∧ ¬"%%".toList <+: line) :
    List.Forall₂ (fun line point => Says line (.point point))
      (lines.filter fun line => ∃ point, Says line (.point point)) (chartOf lines).points := by
  induction lines using List.reverseRecOn with
  | nil => exact .nil
  | append_singleton lines line inductionHypothesis =>
    have earlier := inductionHypothesis fun other member =>
      speak other (List.mem_append_left _ member)
    obtain ⟨nonempty, notComment⟩ := speak line (List.mem_append_right _ (.head _))
    have read := readLine_iff nonempty notComment
    rw [chartOf_snoc, List.filter_append]
    by_cases isPoint : ∃ point, Says line (.point point)
    · rw [List.filter_cons, if_pos (decide_eq_true isPoint), List.filter_nil]
      obtain ⟨point, told⟩ := isPoint
      rw [(read _).2 told]
      exact List.rel_append earlier (.cons told .nil)
    · have dropped : ¬decide (∃ point, Says line (.point point)) = true :=
        fun kept => isPoint (of_decide_eq_true kept)
      rw [List.filter_cons, if_neg dropped, List.filter_nil, List.append_nil]
      cases found : (readLine line).directive? with
      | none => exact earlier
      | some directive =>
        cases directive with
        | point point => exact absurd ⟨point, (read _).1 found⟩ isPoint
        | title text => exact earlier
        | xAxis axis => exact earlier
        | yAxis axis => exact earlier
        | caption quadrant text => exact earlier

theorem chartOf_describes (lines : List Text)
    (speak : ∀ line ∈ lines, line ≠ [] ∧ ¬"%%".toList <+: line) :
    Describes lines (chartOf lines) where
  title := by
    refine chartOf_lastSaid .title Chart.title (fun _ _ => rfl) (fun chart directive other => ?_)
      lines speak
    cases directive with
    | title text => exact absurd rfl (other text)
    | _ => rfl
  xAxis := by
    refine chartOf_lastSaid .xAxis Chart.xAxis (fun _ _ => rfl) (fun chart directive other => ?_)
      lines speak
    cases directive with
    | xAxis axis => exact absurd rfl (other axis)
    | _ => rfl
  yAxis := by
    refine chartOf_lastSaid .yAxis Chart.yAxis (fun _ _ => rfl) (fun chart directive other => ?_)
      lines speak
    cases directive with
    | yAxis axis => exact absurd rfl (other axis)
    | _ => rfl
  captions := by
    intro quadrant
    have fresh : Captions.text {} quadrant = [] := by cases quadrant <;> rfl
    have last : LastSaid (fun line text => Says line (.caption quadrant text))
        (Captions.text {} quadrant) lines ((chartOf lines).captions.text quadrant) := by
      refine chartOf_lastSaid (.caption quadrant) (fun chart => chart.captions.text quadrant)
        (fun chart text => ?_) (fun chart directive other => ?_) lines speak
      · simp [Chart.apply]
      · cases directive with
        | caption otherQuadrant text =>
          have apart : otherQuadrant ≠ quadrant := by
            rintro rfl
            exact other text rfl
          simp [Chart.apply, apart]
        | _ => rfl
    rwa [fresh] at last
  points := chartOf_points lines speak

end Source

namespace Chart

theorem AgreeExcept.refl (keyword : Keyword) (chart : Chart) : chart.AgreeExcept keyword chart :=
  ⟨fun _ => rfl, fun _ => rfl, fun _ => rfl, fun _ _ => rfl, rfl⟩

/-- The same directive keeps the parts of two charts equal that are equal. -/
theorem AgreeExcept.apply {keyword : Keyword} {left right : Chart}
    (agree : left.AgreeExcept keyword right) (directive : Directive) :
    (left.apply directive).AgreeExcept keyword (right.apply directive) := by
  obtain ⟨title, xAxis, yAxis, captions, points⟩ := agree
  cases directive with
  | title text => exact ⟨fun _ => rfl, xAxis, yAxis, captions, points⟩
  | xAxis axis => exact ⟨title, fun _ => rfl, yAxis, captions, points⟩
  | yAxis axis => exact ⟨title, xAxis, fun _ => rfl, captions, points⟩
  | caption quadrant text =>
    refine ⟨title, xAxis, yAxis, fun other apart => ?_, points⟩
    simp [Chart.apply, captions other apart]
  | point point => exact ⟨title, xAxis, yAxis, captions, congrArg (· ++ [point]) points⟩

theorem AgreeExcept.foldl {keyword : Keyword} {left right : Chart}
    (agree : left.AgreeExcept keyword right) (directives : List Directive) :
    (directives.foldl Chart.apply left).AgreeExcept keyword
      (directives.foldl Chart.apply right) := by
  induction directives generalizing left right with
  | nil => exact agree
  | cons directive directives inductionHypothesis =>
    exact inductionHypothesis (agree.apply directive)

/-- A directive changes only what its keyword sets. -/
theorem AgreeExcept.apply_own (chart : Chart) {keyword : Keyword} {directive : Directive}
    (own : directive.keyword? = some keyword) :
    (chart.apply directive).AgreeExcept keyword chart := by
  cases directive with
  | title text =>
    cases own
    exact ⟨fun apart => absurd rfl apart, fun _ => rfl, fun _ => rfl, fun _ _ => rfl, rfl⟩
  | xAxis axis =>
    cases own
    exact ⟨fun _ => rfl, fun apart => absurd rfl apart, fun _ => rfl, fun _ _ => rfl, rfl⟩
  | yAxis axis =>
    cases own
    exact ⟨fun _ => rfl, fun _ => rfl, fun apart => absurd rfl apart, fun _ _ => rfl, rfl⟩
  | caption quadrant text =>
    cases own
    refine ⟨fun _ => rfl, fun _ => rfl, fun _ => rfl, fun other apart => ?_, rfl⟩
    have different : quadrant ≠ other := fun equal => apart (congrArg Keyword.caption equal)
    simp [Chart.apply, different]
  | point point => cases own

end Chart

namespace Source

/-- A line that a keyword claims says nothing that belongs to another keyword, and is no point. -/
theorem said_keyword {keyword : Keyword} {line : Text} (claims : Claims keyword line)
    {directive : Directive} (told : Says line directive) : directive.keyword? = some keyword := by
  have own := said_claims told
  cases found : directive.keyword? with
  | none =>
    rw [found] at own
    exact absurd claims (own keyword)
  | some other =>
    rw [found] at own
    rw [claims_unique own claims]

/-- Leaving out a claimed line changes at most what its keyword sets, and nothing when the line says
nothing. -/
theorem chartOf_without {keyword : Keyword} {line : Text} (claims : Claims keyword line)
    (speaks : line ≠ [] ∧ ¬"%%".toList <+: line) (before after : List Text) :
    (chartOf (before ++ line :: after)).AgreeExcept keyword (chartOf (before ++ after)) ∧
      ((∀ directive, ¬Says line directive) →
        chartOf (before ++ line :: after) = chartOf (before ++ after)) := by
  have read := readLine_iff speaks.1 speaks.2
  simp only [chartOf, List.filterMap_append, List.filterMap_cons, List.foldl_append]
  cases found : (readLine line).directive? with
  | none => exact ⟨.refl keyword _, fun _ => rfl⟩
  | some directive =>
    have told := (read directive).1 found
    refine ⟨?_, fun silent => absurd told (silent directive)⟩
    exact (Chart.AgreeExcept.apply_own _ (said_keyword claims told)).foldl _

/-- A source is read as the chart that its significant lines describe. A line that a keyword claims
sets nothing else, and a claimed line that says nothing could as well be left out. -/
theorem chart_described (source : Text) :
    Describes (significant source) (chart source) ∧
      ∀ keyword line before after other, Claims keyword line →
        significant source = before ++ line :: after → significant other = before ++ after →
        (chart source).AgreeExcept keyword (chart other) ∧
          ((∀ directive, ¬Says line directive) → chart source = chart other) := by
  simp only [chart_significant]
  refine ⟨chartOf_describes _ fun line => significant_line, ?_⟩
  intro keyword line before after other claims lines others
  have member : line ∈ significant source := by
    rw [lines]
    exact List.mem_append_right _ (.head _)
  rw [lines, others]
  exact chartOf_without claims (significant_line member) before after

end Source

end QuadrantChart
