/-
This file proves that a source reads the same when its lines end in a carriage return and a line
feed.
-/

import QuadrantChart.Proofs.Text.Trim
import QuadrantChart.Source.Basic
import QuadrantChart.Text.Utf8
import Mathlib.Data.List.Forall2

namespace QuadrantChart

namespace Text

/-- Every carriage return stands directly in front of a line feed. -/
def ReturnsPaired (text : Text) : Prop :=
  ∀ before after, text = before ++ '\r' :: after → after.head? = some '\n'

theorem returnsPaired_nil : ReturnsPaired [] :=
  fun before _ parts => absurd parts (by cases before <;> simp)

theorem returnsPaired_cons {char : Char} {rest : Text} :
    ReturnsPaired (char :: rest) ↔
      (char = '\r' → rest.head? = some '\n') ∧ ReturnsPaired rest := by
  constructor
  · intro paired
    refine ⟨?_, fun before after parts => paired (char :: before) after ?_⟩
    · rintro rfl
      exact paired [] rest rfl
    · rw [parts, List.cons_append]
  · rintro ⟨first, later⟩ before after parts
    cases before with
    | nil =>
      cases parts
      exact first rfl
    | cons other before =>
      cases parts
      exact later before after rfl

instance : (text : Text) → Decidable (ReturnsPaired text)
  | [] => .isTrue returnsPaired_nil
  | _ :: rest =>
    have := instDecidableReturnsPaired rest
    decidable_of_iff _ returnsPaired_cons.symm

/-- A part of a text with a carriage return at its end that the other part lacks, or the same
part. -/
def MayReturn (part clean : Text) : Prop :=
  part = clean ∨ part = clean ++ ['\r']

theorem MayReturn.trim {part clean : Text} (mayReturn : MayReturn part clean) :
    Text.trim part = Text.trim clean := by
  rcases mayReturn with rfl | rfl
  · rfl
  · exact trim_append_blank clean ['\r'] (List.forall_mem_singleton.2 (by decide))

theorem mayReturn_prependFirst (char : Char) {parts cleanParts : List Text}
    (each : List.Forall₂ MayReturn parts cleanParts) :
    List.Forall₂ MayReturn (prependFirst char parts) (prependFirst char cleanParts) := by
  cases each with
  | nil => exact .cons (.inl rfl) .nil
  | cons first others =>
    rcases first with rfl | rfl
    · exact .cons (.inl rfl) others
    · exact .cons (.inr rfl) others

/-- The lines of a text lose at most their carriage returns. -/
theorem lines_unifyLineEnds {text : Text} (paired : text.ReturnsPaired) :
    List.Forall₂ MayReturn (lines text) (lines (unifyLineEnds text)) := by
  unfold lines
  fun_induction unifyLineEnds text with
  | case1 => exact .cons (.inl rfl) .nil
  | case2 rest inductionHypothesis =>
    have later := inductionHypothesis
      (returnsPaired_cons.1 (returnsPaired_cons.1 paired).2).2
    exact .cons (.inr rfl) later
  | case3 char rest notPair inductionHypothesis =>
    have later := inductionHypothesis (returnsPaired_cons.1 paired).2
    have noReturn : char ≠ '\r' := by
      rintro rfl
      cases rest with
      | nil => exact nomatch paired [] [] rfl
      | cons next others =>
        cases paired [] (next :: others) rfl
        exact notPair others rfl rfl
    rw [if_neg noReturn, splitOn, splitOn]
    split
    · exact .cons (.inl rfl) later
    · exact mayReturn_prependFirst char later

end Text

namespace Source

/-- With all line ends unified, a source has the same lines. -/
theorem lines_unifyLineEnds {source : Text} (paired : source.ReturnsPaired) :
    lines (Text.unifyLineEnds source) = lines source := by
  have trimmed := (Text.lines_unifyLineEnds paired).imp fun _ _ => Text.MayReturn.trim
  have same : List.Forall₂ (· = ·) (lines source) (lines (Text.unifyLineEnds source)) :=
    List.forall₂_map_left_iff.2 (List.forall₂_map_right_iff.2 trimmed)
  rw [List.forall₂_eq_eq_eq] at same
  exact same.symm

theorem chart_unifyLineEnds {source : Text} (paired : source.ReturnsPaired) :
    chart (Text.unifyLineEnds source) = chart source := by
  rw [chart, chart, directives, directives, lines_unifyLineEnds paired]

end Source

end QuadrantChart
