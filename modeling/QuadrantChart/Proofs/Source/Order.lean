/-
This file proves that a source with its lines in another order is read as the same chart, as long as
the lines of each rule stay in order.
-/

import Mathlib.Data.List.FinRange
import Mathlib.Data.List.Sort
import QuadrantChart.Proofs.Source.Meaning

namespace QuadrantChart

namespace Source

/-- What claims a line: the keyword that it begins with, or its signs of a point. -/
inductive Rule where
  | keyword (keyword : Keyword)
  | point
  deriving DecidableEq

namespace Rule

/-- A rule claims a line whether or not the line turns out to be malformed. -/
def Claims : Rule → Text → Prop
  | keyword own, line => Source.Claims own line
  | point, line => Speaks line ∧ (∀ keyword, ¬Source.Claims keyword line) ∧ HasSigns line

/-- The rule that claims a line, if there is one. -/
def ofLine? (line : Text) : Option Rule :=
  if Speaks line then
    match Keyword.ofLine? line with
    | some own => some (keyword own)
    | none => if looksLikePoint line then some point else none
  else none

theorem ofLine_iff (line : Text) (rule : Rule) : ofLine? line = some rule ↔ rule.Claims line := by
  by_cases speaks : Speaks line
  · rw [ofLine?, if_pos speaks]
    cases found : Keyword.ofLine? line with
    | some own =>
      have claims := claims_of_found found
      cases rule with
      | keyword other =>
        simp only [Option.some.injEq, keyword.injEq, Claims]
        constructor
        · rintro rfl
          exact claims
        · exact claims_unique claims
      | point =>
        simp only [Option.some.injEq, reduceCtorEq, Claims, false_iff]
        exact fun isPoint => isPoint.2.1 own claims
    | none =>
      have unclaimed := (unclaimed_iff line).1 found
      cases rule with
      | keyword other => simp [Claims, unclaimed other]
      | point => simp [Claims, speaks, unclaimed, looksLikePoint_iff]
  · rw [ofLine?, if_neg speaks]
    cases rule with
    | keyword own => simpa [Claims] using fun claims => speaks (claimed_speaks claims)
    | point => simp [Claims, speaks]

end Rule

end Source

/-- Lines in another order, of which the kept ones stay in order, are the same lines without the
others. -/
theorem filter_reordered {Line : Type} {lines others : List Line}
    (place : Fin lines.length ≃ Fin others.length)
    (moved : ∀ index, others[place index] = lines[index]) (keep : Line → Bool)
    (ordered : ∀ one next, one < next → keep lines[one] = true → keep lines[next] = true →
      place one < place next) :
    others.filter keep = lines.filter keep := by
  have kept (all : List Line) : all.filter keep =
      ((List.finRange all.length).filter fun index => keep all[index]).map (all[·]) := by
    conv_lhs => rw [← List.map_getElem_finRange all, List.filter_map]
    rfl
  have places : ((List.finRange others.length).filter fun index => keep others[index]) =
      ((List.finRange lines.length).filter fun index => keep lines[index]).map place := by
    -- Both sides are increasing lists of the same places.
    apply List.Pairwise.eq_of_mem_iff (r := (· < ·))
    · exact (List.sortedLT_finRange _).pairwise.filter _
    · rw [List.pairwise_map, List.pairwise_filter]
      exact (List.sortedLT_finRange _).pairwise.imp fun before here there =>
        ordered _ _ before here there
    · intro index
      obtain ⟨origin, rfl⟩ := place.surjective index
      simpa using congrArg keep (moved origin)
  rw [kept others, kept lines, places, List.map_map]
  exact List.map_congr_left fun index _ => moved index

/-- The rule that a directive belongs to. -/
def Directive.rule (directive : Directive) : Source.Rule :=
  match directive.keyword? with
  | some keyword => .keyword keyword
  | none => .point

namespace Chart

/-- The part of a chart that the lines of a rule make: texts or points. -/
def part (chart : Chart) : Source.Rule → List Text ⊕ List Point
  | .keyword .title => .inl [chart.title]
  | .keyword .xAxis => .inl [chart.xAxis.low, chart.xAxis.high]
  | .keyword .yAxis => .inl [chart.yAxis.low, chart.yAxis.high]
  | .keyword (.caption quadrant) => .inl [chart.captions.text quadrant]
  | .point => .inr chart.points

variable {left right : Chart} {rule : Source.Rule}

/-- A chart is made of its parts. -/
theorem eq_of_parts (same : ∀ rule, left.part rule = right.part rule) : left = right := by
  obtain ⟨_, ⟨_, _⟩, ⟨_, _⟩, ⟨_, _, _, _⟩, _⟩ := left
  obtain ⟨_, ⟨_, _⟩, ⟨_, _⟩, ⟨_, _, _, _⟩, _⟩ := right
  cases same (.keyword .title)
  cases same (.keyword .xAxis)
  cases same (.keyword .yAxis)
  cases same (.keyword (.caption .topRight))
  cases same (.keyword (.caption .topLeft))
  cases same (.keyword (.caption .bottomLeft))
  cases same (.keyword (.caption .bottomRight))
  cases same .point
  rfl

/-- A directive keeps the parts of other rules. -/
theorem apply_part_other (chart : Chart) {directive : Directive} (other : directive.rule ≠ rule) :
    (chart.apply directive).part rule = chart.part rule := by
  cases directive with
  | caption quadrant text =>
    rcases rule with (_ | _ | _ | otherQuadrant) | _
    case keyword.caption =>
      have apart : quadrant ≠ otherQuadrant := fun equal =>
        other (congrArg (fun quadrant => Source.Rule.keyword (.caption quadrant)) equal)
      simp [part, Chart.apply, apart]
    all_goals rfl
  | _ =>
    rcases rule with (_ | _ | _ | _) | _
    all_goals first | rfl | exact absurd rfl other

/-- What a directive makes of a part depends on nothing else in the chart. -/
theorem apply_part (same : left.part rule = right.part rule) (directive : Directive) :
    (left.apply directive).part rule = (right.apply directive).part rule := by
  by_cases own : directive.rule = rule
  · subst own
    cases directive with
    | point point =>
      have points : left.points = right.points := Sum.inr.inj same
      simp [part, Chart.apply, Directive.rule, Directive.keyword?, points]
    | _ => simp [part, Chart.apply, Directive.rule, Directive.keyword?]
  · rw [apply_part_other left own, apply_part_other right own, same]

/-- Only the directives of its rule make a part. -/
theorem foldl_part (same : left.part rule = right.part rule) (directives : List Directive) :
    (directives.foldl Chart.apply left).part rule =
      ((directives.filter fun directive => directive.rule = rule).foldl Chart.apply right).part
        rule := by
  induction directives generalizing left right with
  | nil => exact same
  | cons directive directives inductionHypothesis =>
    by_cases own : directive.rule = rule
    · rw [List.filter_cons_of_pos (by simpa using own)]
      exact inductionHypothesis (apply_part same directive)
    · rw [List.filter_cons_of_neg (by simpa using own)]
      exact inductionHypothesis ((apply_part_other left own).trans same)

/-- Directives of different rules may change places. -/
theorem foldl_eq (chart : Chart) {directives others : List Directive}
    (same : ∀ rule, directives.filter (fun directive => directive.rule = rule) =
      others.filter fun directive => directive.rule = rule) :
    directives.foldl Chart.apply chart = others.foldl Chart.apply chart := by
  apply eq_of_parts
  intro rule
  rw [foldl_part rfl directives, foldl_part rfl others, same]

end Chart

namespace Source

/-- The directive of a line belongs to the rule that claims the line. -/
theorem directive_rule {line : Text} {directive : Directive}
    (read : (readLine line).directive? = some directive) :
    Rule.ofLine? line = some directive.rule := by
  obtain ⟨speaks, told⟩ := read_says read
  rw [Rule.ofLine_iff, Directive.rule]
  cases directive with
  | point point =>
    exact ⟨speaks, told.1, (looksLikePoint_iff line).1 (looksLikePoint_of_isPoint told.2)⟩
  | _ => exact said_claims told

/-- The directives of a rule come from the lines that the rule claims. -/
theorem directives_rule (lines : List Text) (rule : Rule) :
    (lines.filterMap fun line => (readLine line).directive?).filter
        (fun directive => directive.rule = rule) =
      (lines.filter fun line => Rule.ofLine? line = some rule).filterMap
        fun line => (readLine line).directive? := by
  rw [List.filter_filterMap, List.filterMap_filter]
  apply List.filterMap_congr
  intro line _
  cases read : (readLine line).directive? with
  | none => simp
  | some directive => simp [directive_rule read, Option.filter]

/-- Lines that keep their order among the lines of the same rule may stand in any order, and lines
that no rule claims may stand anywhere: the source is read as the same chart. -/
theorem chart_reordered (source other : Text)
    (place : Fin (Text.lines source).length ≃ Fin (Text.lines other).length)
    (moved : ∀ index, (Text.lines other)[place index] = (Text.lines source)[index])
    (ordered : ∀ one next, one < next → ∀ rule : Rule,
      rule.Claims (Text.trim (Text.lines source)[one]) →
      rule.Claims (Text.trim (Text.lines source)[next]) → place one < place next) :
    chart source = chart other := by
  apply Chart.foldl_eq
  intro rule
  rw [directives, directives, directives_rule, directives_rule, lines, lines, List.filter_map,
    List.filter_map]
  congr 2
  refine (filter_reordered place moved _ fun one next before here there => ?_).symm
  apply ordered one next before rule
  · exact (Rule.ofLine_iff _ _).1 (of_decide_eq_true here)
  · exact (Rule.ofLine_iff _ _).1 (of_decide_eq_true there)

/-- A point may come before the first of two titles, and a comment may come last. -/
theorem chart_reordered_titles :
    let source := "%% c\ntitle A\na: [0, 1]\ntitle B".toList
    let other := "a: [0, 1]\ntitle A\ntitle B\n%% c".toList
    (∃ place : Fin (Text.lines source).length ≃ Fin (Text.lines other).length,
      (∀ index, (Text.lines other)[place index] = (Text.lines source)[index]) ∧
      ∀ one next, one < next → ∀ rule : Rule,
        rule.Claims (Text.trim (Text.lines source)[one]) →
        rule.Claims (Text.trim (Text.lines source)[next]) → place one < place next) ∧
      chart source = chart other := by
  intro source other
  let place : Fin (Text.lines source).length ≃ Fin (Text.lines other).length :=
    (finCongr (by decide +kernel : _ = 4)).trans (((Equiv.swap 0 2).trans (Equiv.swap 2 3)).trans
      (finCongr (by decide +kernel)))
  have moved : ∀ index, (Text.lines other)[place index] = (Text.lines source)[index] := by
    decide +kernel
  have ordered : ∀ one next, one < next → ∀ rule : Rule,
      rule.Claims (Text.trim (Text.lines source)[one]) →
      rule.Claims (Text.trim (Text.lines source)[next]) → place one < place next := by
    have apart : ∀ one next, one < next → place next ≤ place one →
        Rule.ofLine? (Text.trim (Text.lines source)[one]) = none ∨
        Rule.ofLine? (Text.trim (Text.lines source)[one]) ≠
          Rule.ofLine? (Text.trim (Text.lines source)[next]) := by
      decide +kernel
    intro one next before rule here there
    by_contra later
    rw [← Rule.ofLine_iff] at here there
    rcases apart one next before (not_lt.1 later) with free | different
    · cases free.symm.trans here
    · exact different (here.trans there.symm)
  exact ⟨⟨place, moved, ordered⟩, chart_reordered source other place moved ordered⟩

end Source

end QuadrantChart
