/-
This file proves that a path is read back from its written form.
-/

import QuadrantChart.File.Path
import QuadrantChart.Proofs.Text.Split
import QuadrantChart.Proofs.Text.Trim
import Mathlib.Tactic.SplitIfs

namespace QuadrantChart

namespace Path

/-- A part that leads somewhere. -/
structure IsPart (part : Text) : Prop where
  nonempty : part ≠ []
  notDot : part ≠ ['.']
  single : '/' ∉ part

structure WellFormed (path : Path) : Prop where
  root : path.root ∈ [[], ['/'], ['/', '/']]
  parts : ∀ part ∈ path.parts, IsPart part

theorem ofText_wellFormed (text : Text) : (ofText text).WellFormed where
  root := by
    rw [ofText, rootOf]
    split <;> simp
  parts := by
    intro part member
    obtain ⟨among, leads⟩ := List.mem_filter.1 member
    simp only [Bool.and_eq_true, bne_iff_ne, Bool.not_eq_true', List.isEmpty_eq_false_iff] at leads
    exact ⟨leads.1, leads.2, (Text.splitOn_part '/' text part among).1⟩

theorem stem_subset (name : Text) : stem name ⊆ name := by
  simp only [stem]
  split_ifs
  · exact List.Subset.refl _
  · exact List.take_subset _ _

theorem stem_nonempty {name : Text} (nonempty : name ≠ []) : stem name ≠ [] := by
  simp only [stem]
  split_ifs with whole
  · exact nonempty
  · simp only [Bool.or_eq_true, not_or, List.isEmpty_iff] at whole
    exact whole.2

/-- A path with another extension is still a path. -/
theorem WellFormed.withExtension {path : Path} (wellFormed : path.WellFormed) {extension : Text}
    (proper : extension ≠ []) (single : '/' ∉ extension) :
    (path.withExtension extension).WellFormed := by
  rw [Path.withExtension]
  cases last : path.parts.getLast? with
  | none => exact wellFormed
  | some name =>
    have isName := wellFormed.parts name (List.mem_of_getLast? last)
    refine ⟨wellFormed.root, List.forall_mem_append.2 ⟨fun part member => ?_, ?_⟩⟩
    · exact wellFormed.parts part (List.dropLast_subset _ member)
    · refine List.forall_mem_singleton.2 ⟨?_, fun dot => ?_, ?_⟩
      · exact List.append_ne_nil_of_left_ne_nil (stem_nonempty isName.nonempty) _
      · have length := congrArg List.length dot
        have stemLength := List.length_pos_iff.2 (stem_nonempty isName.nonempty)
        have extensionLength := List.length_pos_iff.2 proper
        simp only [List.length_append, List.length_singleton] at length
        omega
      · rw [List.mem_append, not_or]
        exact ⟨fun member => isName.single (stem_subset name member), single⟩

/-- The slashes in front of a part are the root. -/
theorem rootOf_append {root : Text} (isRoot : root ∈ [[], ['/'], ['/', '/']]) {part rest : Text}
    (isPart : IsPart part) : rootOf (root ++ (part ++ rest)) = root := by
  obtain ⟨first, others, rfl⟩ := List.exists_cons_of_ne_nil isPart.nonempty
  have other : first ≠ '/' := fun slash => isPart.single (by simp [slash])
  simp only [List.mem_cons, List.not_mem_nil, or_false] at isRoot
  rcases isRoot with rfl | rfl | rfl <;> simp [rootOf, other]

/-- The parts of a written path, without the empty ones that its root leaves. -/
theorem splitOn_written {root : Text} (isRoot : root ∈ [[], ['/'], ['/', '/']])
    {parts : List Text} (nonempty : parts ≠ []) (each : ∀ part ∈ parts, IsPart part) :
    (Text.splitOn '/' (root ++ Text.join ['/'] parts)).filter
      (fun part => !part.isEmpty && part != ['.']) = parts := by
  have kept : parts.filter (fun part => !part.isEmpty && part != ['.']) = parts :=
    List.filter_eq_self.2 fun part member => by
      simp [(each part member).nonempty, (each part member).notDot]
  have split := Text.splitOn_join nonempty fun part member => (each part member).single
  simp only [List.mem_cons, List.not_mem_nil, or_false] at isRoot
  rcases isRoot with rfl | rfl | rfl <;> simp [Text.splitOn, split, kept]

/-- The written form of a path leads to it. -/
theorem WellFormed.ofText_written {path : Path} (wellFormed : path.WellFormed) :
    ofText path.written = path := by
  obtain ⟨root, parts⟩ := path
  obtain ⟨isRoot, each⟩ := wellFormed
  cases parts with
  | nil =>
    simp only [List.mem_cons, List.not_mem_nil, or_false] at isRoot
    rcases isRoot with rfl | rfl | rfl <;> decide
  | cons part others =>
    have isPart := each part (.head _)
    obtain ⟨rest, starts⟩ : ∃ rest, Text.join ['/'] (part :: others) = part ++ rest := by
      cases others with
      | nil => exact ⟨[], (List.append_nil part).symm⟩
      | cons next parts => exact ⟨_, List.append_assoc _ _ _⟩
    have written : written ⟨root, part :: others⟩ = root ++ Text.join ['/'] (part :: others) := by
      rw [Path.written]
      split
      · next blank =>
        rw [starts] at blank
        exact absurd (List.append_eq_nil_iff.1 (List.append_eq_nil_iff.1 blank).2).1 isPart.nonempty
      · rfl
    rw [written, ofText, splitOn_written isRoot (List.cons_ne_nil _ _) each, starts,
      rootOf_append isRoot isPart]

end Path

end QuadrantChart
