/-
This file says which directive a line gives, and proves that reading the line finds it.
-/

import QuadrantChart.Proofs.Source.PointLine
import QuadrantChart.Source.Basic

namespace QuadrantChart

namespace Source

/-- The separator between the two labels of an axis. -/
def arrow : Text :=
  "-->".toList

/-- A line that begins with a keyword, whatever follows it. -/
def Claims (keyword : Keyword) (line : Text) : Prop :=
  keyword.text <+: line

/-- The text after the keyword of a line without its blank ends. -/
def SaysText (keyword : Keyword) (line value : Text) : Prop :=
  ∃ rest, line = keyword.text ++ rest ∧ value = Text.trim rest

/-- The two labels after the keyword of a line, which has exactly one arrow. -/
def SaysAxis (keyword : Keyword) (line : Text) (axis : Axis) : Prop :=
  ∃ low high, line = keyword.text ++ (low ++ arrow ++ high) ∧ ¬arrow <:+: low ∧
    ¬arrow <:+: high ∧ axis = ⟨Text.trim low, Text.trim high⟩

/-- What a line says. A line that a keyword claims is never a point. -/
def Says (line : Text) : Directive → Prop
  | .title text => SaysText .title line text
  | .xAxis axis => SaysAxis .xAxis line axis
  | .yAxis axis => SaysAxis .yAxis line axis
  | .caption quadrant text => SaysText (.caption quadrant) line text
  | .point point => (∀ keyword, ¬Claims keyword line) ∧ IsPoint line point

theorem splitArrows_nonempty (text : Text) : splitArrows text ≠ [] := by
  fun_induction splitArrows text with
  | case1 => exact List.cons_ne_nil _ _
  | case2 rest => exact List.cons_ne_nil _ _
  | case3 char rest notArrow =>
    cases splitArrows rest <;> exact List.cons_ne_nil _ _

theorem prependFirst_eq (char : Char) (parts others : List Text) (first : Text)
    (nonempty : parts ≠ []) :
    Text.prependFirst char parts = first :: others ↔
      ∃ shorter, first = char :: shorter ∧ parts = shorter :: others := by
  cases parts with
  | nil => exact absurd rfl nonempty
  | cons part parts =>
    simp only [Text.prependFirst, List.cons.injEq]
    constructor
    · rintro ⟨rfl, rfl⟩
      exact ⟨part, rfl, rfl, rfl⟩
    · rintro ⟨shorter, rfl, rfl, rfl⟩
      exact ⟨rfl, rfl⟩

/-- Where no arrow begins at a character, the arrows of a text are those after the character. -/
theorem arrow_infix_cons (char : Char) (rest : Text)
    (notArrow : ∀ after, char = '-' → rest = '-' :: '>' :: after → False) :
    arrow <:+: char :: rest ↔ arrow <:+: rest := by
  rw [List.infix_cons_iff]
  refine or_iff_right fun begins => ?_
  obtain ⟨after, equal⟩ := begins
  cases equal
  exact notArrow after rfl rfl

theorem splitArrows_one (text part : Text) :
    splitArrows text = [part] ↔ part = text ∧ ¬arrow <:+: text := by
  fun_induction splitArrows text generalizing part with
  | case1 =>
    have none : ¬arrow <:+: [] := by decide
    simp [none, eq_comm]
  | case2 rest =>
    have here : arrow <:+: '-' :: '-' :: '>' :: rest := ⟨[], rest, rfl⟩
    simp [here, splitArrows_nonempty]
  | case3 char rest notArrow inductionHypothesis =>
    rw [prependFirst_eq _ _ _ _ (splitArrows_nonempty rest), arrow_infix_cons char rest notArrow]
    constructor
    · rintro ⟨shorter, rfl, parts⟩
      obtain ⟨rfl, none⟩ := (inductionHypothesis shorter).1 parts
      exact ⟨rfl, none⟩
    · rintro ⟨rfl, none⟩
      exact ⟨rest, rfl, (inductionHypothesis rest).2 ⟨rfl, none⟩⟩

/-- The first arrow of a text that begins with one is the one at its beginning. -/
theorem arrow_first (rest low high : Text) (none : ¬arrow <:+: low)
    (parts : arrow ++ rest = low ++ arrow ++ high) : low = [] ∧ high = rest := by
  rcases low with _ | ⟨first, _ | ⟨second, _ | ⟨third, others⟩⟩⟩
  · exact ⟨rfl, (List.append_cancel_left parts).symm⟩
  · cases parts
  · cases parts
  · cases parts
    exact absurd ⟨[], others, rfl⟩ none

/-- A text has two parts between arrows when it has exactly one arrow. -/
theorem splitArrows_two (text low high : Text) :
    splitArrows text = [low, high] ↔
      text = low ++ arrow ++ high ∧ ¬arrow <:+: low ∧ ¬arrow <:+: high := by
  fun_induction splitArrows text generalizing low with
  | case1 =>
    constructor
    · intro equal
      cases equal
    · rintro ⟨equal, -⟩
      cases low <;> cases equal
  | case2 rest =>
    rw [List.cons.injEq, splitArrows_one]
    constructor
    · rintro ⟨rfl, rfl, none⟩
      exact ⟨rfl, by decide, none⟩
    · rintro ⟨parts, noneLow, noneHigh⟩
      obtain ⟨rfl, rfl⟩ := arrow_first rest low high noneLow parts
      exact ⟨rfl, rfl, noneHigh⟩
  | case3 char rest notArrow inductionHypothesis =>
    rw [prependFirst_eq _ _ _ _ (splitArrows_nonempty rest)]
    constructor
    · rintro ⟨shorter, rfl, parts⟩
      obtain ⟨rfl, noneLow, noneHigh⟩ := (inductionHypothesis shorter).1 parts
      refine ⟨rfl, fun found => noneLow ?_, noneHigh⟩
      refine (arrow_infix_cons char shorter ?_).1 found
      rintro after rfl rfl
      exact notArrow _ rfl rfl
    · rintro ⟨parts, noneLow, noneHigh⟩
      cases low with
      | nil =>
        cases parts
        exact absurd rfl (notArrow high rfl)
      | cons first shorter =>
        cases parts
        exact ⟨shorter, rfl, (inductionHypothesis shorter).2
          ⟨rfl, fun found => noneLow (List.infix_cons found), noneHigh⟩⟩

theorem keyword_mem (keyword : Keyword) : keyword ∈ Keyword.all := by
  rcases keyword with _ | _ | _ | (_ | _ | _ | _) <;> decide

/-- No keyword begins with another one, so that at most one keyword claims a line. -/
theorem claims_unique {line : Text} {first second : Keyword} (firstClaims : Claims first line)
    (secondClaims : Claims second line) : first = second := by
  have apart : ∀ one ∈ Keyword.all, ∀ other ∈ Keyword.all, one.text <+: other.text →
      one = other := by decide
  rcases List.prefix_or_prefix_of_prefix firstClaims secondClaims with shorter | longer
  · exact apart first (keyword_mem first) second (keyword_mem second) shorter
  · exact (apart second (keyword_mem second) first (keyword_mem first) longer).symm

theorem claims_of_found {line : Text} {keyword : Keyword}
    (found : Keyword.ofLine? line = some keyword) : Claims keyword line := by
  rw [Keyword.ofLine?, List.find?_eq_some_iff_append] at found
  exact List.isPrefixOf_iff_prefix.1 found.1

theorem ofLine_iff (line : Text) (keyword : Keyword) :
    Keyword.ofLine? line = some keyword ↔ Claims keyword line := by
  constructor
  · exact claims_of_found
  · intro claims
    cases found : Keyword.ofLine? line with
    | none =>
      have unclaimed := List.find?_eq_none.1 found keyword (keyword_mem keyword)
      exact absurd (List.isPrefixOf_iff_prefix.2 claims) unclaimed
    | some other =>
      rw [claims_unique (claims_of_found found) claims]

theorem unclaimed_iff (line : Text) :
    Keyword.ofLine? line = none ↔ ∀ keyword, ¬Claims keyword line := by
  constructor
  · intro unclaimed keyword claims
    cases unclaimed.symm.trans ((ofLine_iff line keyword).2 claims)
  · intro unclaimed
    cases found : Keyword.ofLine? line with
    | none => rfl
    | some keyword => exact absurd ((ofLine_iff line keyword).1 found) (unclaimed keyword)

theorem axis_iff (rest : Text) (axis : Axis) :
    axis? rest = some axis ↔ ∃ low high, rest = low ++ arrow ++ high ∧ ¬arrow <:+: low ∧
      ¬arrow <:+: high ∧ axis = ⟨Text.trim low, Text.trim high⟩ := by
  unfold axis?
  constructor
  · intro found
    split at found
    · rename_i low high parts
      obtain ⟨split, noneLow, noneHigh⟩ := (splitArrows_two rest low high).1 parts
      cases found
      exact ⟨low, high, split, noneLow, noneHigh, rfl⟩
    · cases found
  · rintro ⟨low, high, split, noneLow, noneHigh, rfl⟩
    rw [(splitArrows_two rest low high).2 ⟨split, noneLow, noneHigh⟩]

theorem saysText_iff (keyword : Keyword) (rest value : Text) :
    SaysText keyword (keyword.text ++ rest) value ↔ value = Text.trim rest := by
  constructor
  · rintro ⟨other, equal, rfl⟩
    rw [List.append_cancel_left equal]
  · rintro rfl
    exact ⟨rest, rfl, rfl⟩

theorem saysAxis_iff (keyword : Keyword) (rest : Text) (axis : Axis) :
    SaysAxis keyword (keyword.text ++ rest) axis ↔ axis? rest = some axis := by
  rw [axis_iff]
  constructor
  · rintro ⟨low, high, equal, only⟩
    exact ⟨low, high, List.append_cancel_left equal, only⟩
  · rintro ⟨low, high, rfl, only⟩
    exact ⟨low, high, rfl, only⟩

end Source

/-- The keyword of a directive, which a point does not have. -/
def Directive.keyword? : Directive → Option Keyword
  | .title _ => some .title
  | .xAxis _ => some .xAxis
  | .yAxis _ => some .yAxis
  | .caption quadrant _ => some (.caption quadrant)
  | .point _ => none

namespace Source

/-- The keyword of what a line says claims the line. -/
theorem said_claims {line : Text} {directive : Directive} (told : Says line directive) :
    match directive.keyword? with
    | some keyword => Claims keyword line
    | none => ∀ keyword, ¬Claims keyword line := by
  cases directive with
  | title text =>
    obtain ⟨rest, rfl, -⟩ := told
    exact ⟨rest, rfl⟩
  | xAxis axis =>
    obtain ⟨low, high, rfl, -⟩ := told
    exact ⟨_, rfl⟩
  | yAxis axis =>
    obtain ⟨low, high, rfl, -⟩ := told
    exact ⟨_, rfl⟩
  | caption quadrant text =>
    obtain ⟨rest, rfl, -⟩ := told
    exact ⟨rest, rfl⟩
  | point point => exact told.1

theorem directive_iff {keyword : Keyword} (rest : Text) (directive : Directive) :
    directive? keyword rest = some directive ↔ Says (keyword.text ++ rest) directive := by
  have claims : Claims keyword (keyword.text ++ rest) := ⟨rest, rfl⟩
  constructor
  · intro found
    cases keyword with
    | title =>
      cases found
      exact (saysText_iff .title rest _).2 rfl
    | xAxis =>
      obtain ⟨axis, read, rfl⟩ := Option.map_eq_some_iff.1 found
      exact (saysAxis_iff .xAxis rest axis).2 read
    | yAxis =>
      obtain ⟨axis, read, rfl⟩ := Option.map_eq_some_iff.1 found
      exact (saysAxis_iff .yAxis rest axis).2 read
    | caption quadrant =>
      cases found
      exact (saysText_iff (.caption quadrant) rest _).2 rfl
  · intro told
    have own := said_claims told
    cases directive with
    | title text =>
      cases claims_unique claims own
      rw [(saysText_iff .title rest text).1 told]
      rfl
    | xAxis axis =>
      cases claims_unique claims own
      exact congrArg (Option.map Directive.xAxis) ((saysAxis_iff .xAxis rest axis).1 told)
    | yAxis axis =>
      cases claims_unique claims own
      exact congrArg (Option.map Directive.yAxis) ((saysAxis_iff .yAxis rest axis).1 told)
    | caption quadrant text =>
      cases claims_unique claims own
      rw [(saysText_iff (.caption quadrant) rest text).1 told]
      rfl
    | point point => exact absurd claims (own keyword)

theorem unclaimed_said {line : Text} (unclaimed : ∀ keyword, ¬Claims keyword line)
    (directive : Directive) :
    Says line directive ↔ ∃ point, directive = .point point ∧ IsPoint line point := by
  constructor
  · intro told
    have own := said_claims told
    cases directive with
    | point point => exact ⟨point, rfl, told.2⟩
    | title text => exact absurd own (unclaimed _)
    | xAxis axis => exact absurd own (unclaimed _)
    | yAxis axis => exact absurd own (unclaimed _)
    | caption quadrant text => exact absurd own (unclaimed _)
  · rintro ⟨point, rfl, isPoint⟩
    exact ⟨unclaimed, isPoint⟩

theorem Line.directive_ofDirective (directive : Option Directive) :
    (Line.ofDirective? directive).directive? = directive := by
  cases directive <;> rfl

/-- A line that is neither blank nor a comment. -/
def Speaks (line : Text) : Prop :=
  line ≠ [] ∧ ¬"%%".toList <+: line

instance (line : Text) : Decidable (Speaks line) :=
  inferInstanceAs (Decidable (_ ∧ _))

/-- A line with a keyword is neither blank nor a comment. -/
theorem claimed_speaks {keyword : Keyword} {line : Text} (claims : Claims keyword line) :
    Speaks line := by
  obtain ⟨rest, rfl⟩ := claims
  constructor
  · rcases keyword with _ | _ | _ | (_ | _ | _ | _) <;> exact List.cons_ne_nil _ _
  · rintro ⟨after, equal⟩
    rcases keyword with _ | _ | _ | (_ | _ | _ | _) <;> cases equal

theorem silent_iff (line : Text) : (line.isEmpty || isComment line) = true ↔ ¬Speaks line := by
  rw [Bool.or_eq_true, List.isEmpty_iff, isComment, List.isPrefixOf_iff_prefix, Speaks,
    Decidable.not_and_iff_not_or_not, Decidable.not_not, Decidable.not_not]

theorem readLine_unspoken {line : Text} (silent : ¬Speaks line) : readLine line = .silent := by
  rw [readLine, if_pos ((silent_iff line).2 silent)]

theorem readLine_spoken {line : Text} (speaks : Speaks line) :
    readLine line =
      match Keyword.ofLine? line with
      | some keyword => .ofDirective? (directive? keyword (line.drop keyword.text.length))
      | none =>
        if looksLikePoint line then .ofDirective? ((point? line).map .point)
        else .unrecognized :=
  if_neg fun silent => (silent_iff line).1 silent speaks

/-- A line that is neither blank nor a comment gives the directive that it says, if any. -/
theorem readLine_iff {line : Text} (nonempty : line ≠ []) (notComment : ¬"%%".toList <+: line)
    (directive : Directive) :
    (readLine line).directive? = some directive ↔ Says line directive := by
  rw [readLine_spoken ⟨nonempty, notComment⟩]
  cases found : Keyword.ofLine? line with
  | some keyword =>
    obtain ⟨rest, rfl⟩ := claims_of_found found
    simp only [List.drop_left, Line.directive_ofDirective, directive_iff]
  | none =>
    rw [unclaimed_said ((unclaimed_iff line).1 found)]
    by_cases looks : looksLikePoint line = true
    · simp only [looks, if_true, Line.directive_ofDirective, Option.map_eq_some_iff, point_iff]
      constructor
      · rintro ⟨point, isPoint, rfl⟩
        exact ⟨point, rfl, isPoint⟩
      · rintro ⟨point, rfl, isPoint⟩
        exact ⟨point, isPoint, rfl⟩
    · simp only [looks]
      constructor
      · intro found
        cases found
      · rintro ⟨point, -, isPoint⟩
        exact absurd (looksLikePoint_of_isPoint isPoint) looks

/-- A directive is found only in a line that says it. -/
theorem read_says {line : Text} {directive : Directive}
    (read : (readLine line).directive? = some directive) : Speaks line ∧ Says line directive := by
  have speaks : Speaks line := by
    refine Decidable.byContradiction fun silent => ?_
    rw [readLine_unspoken silent] at read
    cases read
  exact ⟨speaks, (readLine_iff speaks.1 speaks.2 directive).1 read⟩

end Source

end QuadrantChart
