/-
This file says which lines of a source are skipped and how each of them is reported, and proves that
a source without them gives the same chart and no reports.
-/

import QuadrantChart.Proofs.Source.Meaning
import QuadrantChart.Proofs.Text.Split
import QuadrantChart.Proofs.Text.Trim

namespace QuadrantChart

namespace Source

/-- A line of a source and its number. Only line feeds separate lines, and the first line is number
one. -/
def IsLine (source : Text) (number : Nat) (raw : Text) : Prop :=
  ∃ raws, Text.join ['\n'] raws = source ∧ (∀ part ∈ raws, '\n' ∉ part) ∧
    (raw, number) ∈ raws.zipIdx 1

theorem isLine_iff (source : Text) (number : Nat) (raw : Text) :
    IsLine source number raw ↔ (raw, number) ∈ (Text.lines source).zipIdx 1 := by
  constructor
  · rintro ⟨raws, rfl, clean, member⟩
    have nonempty : raws ≠ [] := by
      rintro rfl
      cases member
    rwa [Text.lines, Text.splitOn_join nonempty clean]
  · intro member
    exact ⟨_, Text.join_splitOn '\n' source,
      fun part among => (Text.splitOn_part '\n' source part among).1, member⟩

/-- A line that begins like an axis and has no two labels around a single arrow, or a line that has
the signs of a point and is none. -/
def IsMalformed (line : Text) : Prop :=
  (∃ keyword ∈ [Keyword.xAxis, .yAxis], Claims keyword line ∧
    ∀ axis, ¬SaysAxis keyword line axis) ∨
  (∀ keyword, ¬Claims keyword line) ∧ HasSigns line ∧ ∀ point, ¬IsPoint line point

/-- A line that begins with no keyword and lacks a sign of a point. -/
def IsUnrecognized (line : Text) : Prop :=
  (∀ keyword, ¬Claims keyword line) ∧ ¬HasSigns line

theorem Line.ofDirective_malformed (directive : Option Directive) :
    Line.ofDirective? directive = .malformed ↔ directive = none := by
  cases directive <;> simp [Line.ofDirective?]

theorem Line.ofDirective_claimed (directive : Option Directive) :
    Line.ofDirective? directive ≠ .silent ∧ Line.ofDirective? directive ≠ .unrecognized := by
  cases directive <;> simp [Line.ofDirective?]

/-- Of all keywords, only that of an axis may be followed by what is no directive. -/
theorem directive_none (keyword : Keyword) (rest : Text) :
    directive? keyword rest = none ↔ keyword ∈ [Keyword.xAxis, .yAxis] ∧
      ∀ axis, ¬SaysAxis keyword (keyword.text ++ rest) axis := by
  simp only [saysAxis_iff, ← Option.eq_none_iff_forall_ne_some]
  cases keyword <;> simp [directive?]

theorem point_none (line : Text) : point? line = none ↔ ∀ point, ¬IsPoint line point := by
  simp only [← point_iff, Option.eq_none_iff_forall_ne_some]

theorem readLine_malformed {line : Text} (speaks : Speaks line) :
    readLine line = .malformed ↔ IsMalformed line := by
  rw [readLine_spoken speaks, IsMalformed]
  cases found : Keyword.ofLine? line with
  | some keyword =>
    obtain ⟨rest, rfl⟩ := claims_of_found found
    have claims : Claims keyword (keyword.text ++ rest) := ⟨rest, rfl⟩
    simp only [List.drop_left, Line.ofDirective_malformed, directive_none]
    constructor
    · rintro ⟨ofAxis, none⟩
      exact .inl ⟨keyword, ofAxis, claims, none⟩
    · rintro (⟨other, ofAxis, others, none⟩ | ⟨unclaimed, -⟩)
      · cases claims_unique claims others
        exact ⟨ofAxis, none⟩
      · exact absurd claims (unclaimed keyword)
  | none =>
    have unclaimed := (unclaimed_iff line).1 found
    have noAxis : ¬∃ keyword ∈ [Keyword.xAxis, .yAxis], Claims keyword line ∧
        ∀ axis, ¬SaysAxis keyword line axis := by
      rintro ⟨keyword, -, claims, -⟩
      exact unclaimed keyword claims
    rw [or_iff_right noAxis, and_iff_right unclaimed, ← looksLikePoint_iff, ← point_none]
    by_cases looks : looksLikePoint line = true
    · simp [looks, Line.ofDirective_malformed]
    · simp [looks]

theorem readLine_unrecognized {line : Text} (speaks : Speaks line) :
    readLine line = .unrecognized ↔ IsUnrecognized line := by
  rw [readLine_spoken speaks, IsUnrecognized, ← unclaimed_iff, ← looksLikePoint_iff]
  cases found : Keyword.ofLine? line with
  | some keyword => simp [Line.ofDirective_claimed]
  | none =>
    by_cases looks : looksLikePoint line = true
    · simp [looks, Line.ofDirective_claimed]
    · simp [looks]

theorem readLine_silent {line : Text} : readLine line = .silent ↔ ¬Speaks line := by
  constructor
  · intro silent speaks
    rw [readLine_spoken speaks] at silent
    split at silent
    · exact (Line.ofDirective_claimed _).1 silent
    · split at silent
      · exact (Line.ofDirective_claimed _).1 silent
      · cases silent
  · exact readLine_unspoken

/-- The message about a skipped line with its number. -/
def Reports (number : Nat) (line message : Text) : Prop :=
  Speaks line ∧
    (IsMalformed line ∧ message = "ignored malformed directive on line ".toList ++
      Text.ofNat number ++ ": ".toList ++ Text.quoted line ∨
    IsUnrecognized line ∧ message = "ignored unrecognized line ".toList ++
      Text.ofNat number ++ ": ".toList ++ Text.quoted line)

/-- What is wrong with a line that is skipped for a reason. -/
def SkipReason.Holds : SkipReason → Text → Prop
  | .malformed => IsMalformed
  | .unrecognized => IsUnrecognized

theorem skip_iff (number : Nat) (line : Text) (skip : Skip) :
    skip? number line = some skip ↔
      skip.number = number ∧ skip.line = line ∧ Speaks line ∧ skip.reason.Holds line := by
  constructor
  · intro found
    have speaks : Speaks line := by
      by_contra silent
      rw [skip?, readLine_unspoken silent] at found
      cases found
    unfold skip? at found
    split at found
    · rename_i malformed
      cases found
      exact ⟨rfl, rfl, speaks, (readLine_malformed speaks).1 malformed⟩
    · rename_i unrecognized
      cases found
      exact ⟨rfl, rfl, speaks, (readLine_unrecognized speaks).1 unrecognized⟩
    · cases found
  · rintro ⟨rfl, rfl, speaks, holds⟩
    obtain ⟨reason, number, line⟩ := skip
    cases reason with
    | malformed => rw [skip?, (readLine_malformed speaks).2 holds]
    | unrecognized => rw [skip?, (readLine_unrecognized speaks).2 holds]

/-- The skipped lines are the lines for which there is a reason to skip them. -/
theorem mem_skips (source : Text) (skip : Skip) :
    skip ∈ skips source ↔ ∃ raw, (raw, skip.number) ∈ (Text.lines source).zipIdx 1 ∧
      skip.line = Text.trim raw ∧ Speaks skip.line ∧ skip.reason.Holds skip.line := by
  simp only [skips, lines, List.zipIdx_map, List.mem_filterMap, List.mem_map, Prod.exists,
    Prod.map_apply, id_eq, Prod.mk.injEq, skip_iff]
  constructor
  · rintro ⟨line, number, ⟨raw, other, member, rfl, rfl⟩, rfl, same, speaks, holds⟩
    rw [same]
    exact ⟨raw, member, rfl, speaks, holds⟩
  · rintro ⟨raw, member, same, speaks, holds⟩
    rw [same] at speaks holds
    exact ⟨_, _, ⟨raw, _, member, rfl, rfl⟩, rfl, same, speaks, holds⟩

theorem skips_increasing (source : Text) :
    (skips source).Pairwise fun one next => one.number < next.number := by
  have numbers : ((lines source).zipIdx 1).Pairwise fun one next => one.2 < next.2 := by
    rw [← List.pairwise_map, List.zipIdx_map_snd]
    exact List.pairwise_lt_range'
  refine List.Pairwise.filterMap _ ?_ numbers
  intro one next before skip found other otherFound
  rw [((skip_iff _ _ _).1 found).1, ((skip_iff _ _ _).1 otherFound).1]
  exact before

theorem Line.directive_some {line : Line} {directive : Directive} :
    line.directive? = some directive ↔ line = .directive directive := by
  cases line <;> simp [Line.directive?]

/-- A source whose lines are directives or silent gives the directives in order and skips
nothing. -/
theorem directives_told {source : Text} {told silent : List Text} {directives : List Directive}
    (parts : lines source = told ++ silent)
    (each : told.map readLine = directives.map Line.directive)
    (quiet : ∀ line ∈ silent, readLine line = .silent) :
    Source.directives source = directives ∧ skips source = [] := by
  constructor
  · have found : (told.map readLine).filterMap Line.directive? = directives := by
      rw [each, List.filterMap_map]
      exact List.filterMap_some
    have none : silent.filterMap (fun line => (readLine line).directive?) = [] :=
      List.filterMap_eq_nil_iff.2 fun line member => by rw [quiet line member]; rfl
    rw [Source.directives, parts, List.filterMap_append, none, List.append_nil]
    rwa [List.filterMap_map] at found
  · rw [skips, List.filterMap_eq_nil_iff, parts]
    rintro ⟨line, number⟩ member
    rcases List.mem_append.1 (List.fst_mem_of_mem_zipIdx member) with isTold | isSilent
    · have read := List.mem_map_of_mem (f := readLine) isTold
      rw [each] at read
      obtain ⟨directive, -, read⟩ := List.mem_map.1 read
      simp [skip?, ← read]
    · simp [skip?, quiet line isSilent]

/-- A skipped line leaves the chart of the lines up to it as it was. -/
theorem skipped_keeps {source : Text} {skip : Skip} (skipped : skip ∈ skips source) :
    chartOf ((lines source).take skip.number) =
      chartOf ((lines source).take (skip.number - 1)) := by
  obtain ⟨raw, member, line, speaks, holds⟩ := (mem_skips source skip).1 skipped
  obtain ⟨positive, found⟩ := List.mk_mem_zipIdx_iff_le_and_getElem?_sub.1 member
  have here : (lines source)[skip.number - 1]? = some skip.line := by
    rw [lines, List.getElem?_map, found, line]
    rfl
  have none : (readLine skip.line).directive? = none := by
    have skipped := (skip_iff skip.number skip.line skip).2 ⟨rfl, rfl, speaks, holds⟩
    cases read : readLine skip.line with
    | directive directive =>
      rw [skip?, read] at skipped
      cases skipped
    | _ => rfl
  have next : skip.number = skip.number - 1 + 1 := by omega
  rw [next, List.take_add_one, here, Option.toList_some, chartOf_snoc, none]
  rfl

/-- The source without its blank lines, its comments and its skipped lines. -/
def told (source : Text) : Text :=
  Text.join ['\n'] ((((Text.lines source).zipIdx 1).filter fun (raw, number) =>
    Speaks (Text.trim raw) ∧ ∀ skip ∈ skips source, skip.number ≠ number).map Prod.fst)

/-- No record has the number of a line that there is no reason to skip. -/
theorem unskipped_iff {source raw : Text} {number : Nat}
    (member : (raw, number) ∈ (Text.lines source).zipIdx 1) :
    (∀ skip ∈ skips source, skip.number ≠ number) ↔ skip? number (Text.trim raw) = none := by
  rw [Option.eq_none_iff_forall_ne_some]
  constructor
  · intro unskipped skip found
    obtain ⟨rfl, line, speaks, holds⟩ := (skip_iff _ _ _).1 found
    rw [← line] at speaks holds
    exact unskipped skip ((mem_skips source skip).2 ⟨raw, member, line, speaks, holds⟩) rfl
  · rintro none skip skipped rfl
    obtain ⟨other, found, line, speaks, holds⟩ := (mem_skips source skip).1 skipped
    have same : raw = other := by
      rw [List.mk_mem_zipIdx_iff_le_and_getElem?_sub] at member found
      exact Option.some.inj (member.2.symm.trans found.2)
    rw [← same] at line
    rw [line] at speaks holds
    exact none skip ((skip_iff _ _ _).2 ⟨rfl, line, speaks, holds⟩)

/-- The lines that are left are those with a directive. -/
theorem told_eq (source : Text) :
    told source = Text.join ['\n'] ((Text.lines source).filter fun raw =>
      (readLine (Text.trim raw)).directive?.isSome) := by
  have same : ∀ line ∈ (Text.lines source).zipIdx 1,
      decide (Speaks (Text.trim line.1) ∧ ∀ skip ∈ skips source, skip.number ≠ line.2) =
        (readLine (Text.trim line.1)).directive?.isSome := by
    intro line member
    have spoken : Speaks (Text.trim line.1) ↔ readLine (Text.trim line.1) ≠ .silent := by
      rw [Ne, readLine_silent, Decidable.not_not]
    rw [Bool.eq_iff_iff, decide_eq_true_eq, unskipped_iff member, spoken]
    cases read : readLine (Text.trim line.1) <;> simp [skip?, read, Line.directive?]
  rw [told, List.filter_congr same]
  congr 1
  conv_rhs => rw [← List.zipIdx_map_fst 1 (Text.lines source), List.filter_map]
  rfl

theorem Line.filter_directive (all : List Line) :
    (all.filter fun line => line.directive?.isSome) =
      (all.filterMap Line.directive?).map .directive := by
  induction all with
  | nil => rfl
  | cons line others inductionHypothesis =>
    cases found : line.directive? with
    | none => simp [found, inductionHypothesis]
    | some directive =>
      simpa [found, inductionHypothesis] using Line.directive_some.1 found

/-- What a source tells is read as the same chart, and no line of it is skipped. -/
theorem told_read (source : Text) :
    chart (told source) = chart source ∧ skips (told source) = [] := by
  have each : (((Text.lines source).filter fun raw =>
      (readLine (Text.trim raw)).directive?.isSome).map Text.trim).map readLine =
        (directives source).map .directive := by
    have filtered := Line.filter_directive ((lines source).map readLine)
    rw [List.filterMap_map] at filtered
    rw [directives, ← Function.comp_def Line.directive?, ← filtered, lines, List.map_map,
      List.map_map, List.filter_map]
    rfl
  rw [told_eq]
  generalize kept : (Text.lines source).filter _ = raws at each ⊢
  have clean : ∀ raw ∈ raws, '\n' ∉ raw := by
    intro raw member
    rw [← kept] at member
    exact (Text.splitOn_part '\n' source raw (List.mem_filter.1 member).1).1
  obtain ⟨silent, parts, quiet⟩ : ∃ silent, lines (Text.join ['\n'] raws) =
      raws.map Text.trim ++ silent ∧ ∀ line ∈ silent, readLine line = .silent := by
    cases raws with
    | nil => exact ⟨[[]], rfl, by simp [readLine]⟩
    | cons first others =>
      refine ⟨[], ?_, by simp⟩
      rw [List.append_nil, lines, Text.lines, Text.splitOn_join (List.cons_ne_nil _ _) clean]
  obtain ⟨same, none⟩ := directives_told parts each quiet
  refine ⟨?_, none⟩
  rw [chart, chart, same]

/-- The records of a source come in the order of their lines. Each of them reports a line that is
malformed or unrecognized, with its number and without its blank ends, and each such line has its
record. A skipped line changes nothing in the chart, and a source with none of these lines, of the
blank lines and of the comments gives the same chart and no records. -/
theorem skips_accounted (source : Text) :
    ((skips source).Pairwise fun one next => one.number < next.number) ∧
    (∀ number message,
      (number, message) ∈ (skips source).map (fun skip => (skip.number, skip.message)) ↔
        ∃ raw, IsLine source number raw ∧ Reports number (Text.trim raw) message) ∧
    (∀ skip ∈ skips source,
      chartOf ((lines source).take skip.number) =
        chartOf ((lines source).take (skip.number - 1))) ∧
    chart (told source) = chart source ∧ skips (told source) = [] := by
  refine ⟨skips_increasing source, fun number message => ?_, fun skip skipped =>
    skipped_keeps skipped, told_read source⟩
  simp only [List.mem_map, Prod.mk.injEq, isLine_iff]
  constructor
  · rintro ⟨skip, skipped, rfl, rfl⟩
    obtain ⟨raw, member, line, speaks, holds⟩ := (mem_skips source skip).1 skipped
    refine ⟨raw, member, ?_⟩
    rw [← line]
    refine ⟨speaks, ?_⟩
    cases reason : skip.reason with
    | malformed =>
      rw [reason] at holds
      exact .inl ⟨holds, by rw [Skip.message, reason]⟩
    | unrecognized =>
      rw [reason] at holds
      exact .inr ⟨holds, by rw [Skip.message, reason]⟩
  · rintro ⟨raw, member, speaks, ⟨malformed, rfl⟩ | ⟨unrecognized, rfl⟩⟩
    · let skip : Skip := ⟨.malformed, number, Text.trim raw⟩
      exact ⟨skip, (mem_skips source skip).2 ⟨raw, member, rfl, speaks, malformed⟩, rfl, rfl⟩
    · let skip : Skip := ⟨.unrecognized, number, Text.trim raw⟩
      exact ⟨skip, (mem_skips source skip).2 ⟨raw, member, rfl, speaks, unrecognized⟩, rfl, rfl⟩

end Source

end QuadrantChart
