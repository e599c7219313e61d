/-
This file proves what removing blank ends keeps of a text, and which texts stand on a line by
themselves.
-/

import Mathlib.Data.List.DropRight
import Mathlib.Data.List.Induction
import QuadrantChart.Text.Basic

namespace QuadrantChart

namespace Text

/-- A text without blank ends within one line. -/
structure IsInline (text : Text) : Prop where
  trimmed : trim text = text
  oneLine : '\n' ∉ text

theorem trim_eq (text : Text) : trim text = (text.dropWhile isBlank).rdropWhile isBlank :=
  rfl

theorem trim_within (text : Text) : trim text <:+: text :=
  (List.rdropWhile_prefix isBlank (text.dropWhile isBlank)).isInfix.trans
    (List.dropWhile_suffix isBlank).isInfix

theorem mem_of_mem_trim {text : Text} {char : Char} (member : char ∈ trim text) : char ∈ text :=
  (trim_within text).subset member

/-- A visible character at the beginning stays there. -/
theorem trim_visible (first : Char) (rest : Text) (visible : isBlank first = false) :
    ∃ kept, trim (first :: rest) = first :: kept ∧ kept <+: rest := by
  have ended : trim (first :: rest) = (first :: rest).rdropWhile isBlank := by
    simp [trim_eq, visible]
  have shorter := List.rdropWhile_prefix isBlank (first :: rest)
  rw [← ended] at shorter
  cases trimmed : trim (first :: rest) with
  | nil =>
    have every := List.rdropWhile_eq_nil_iff.1 (ended.symm.trans trimmed) first List.mem_cons_self
    simp [visible] at every
  | cons other kept =>
    rw [trimmed, List.cons_prefix_cons] at shorter
    exact ⟨kept, by rw [shorter.1], shorter.2⟩

theorem trim_trim (text : Text) : trim (trim text) = trim text := by
  cases remaining : text.dropWhile isBlank with
  | nil =>
    rw [trim_eq text, remaining]
    rfl
  | cons first rest =>
    have visible : isBlank first = false := by
      have head := List.dropWhile_get_zero_not isBlank text (by simp [remaining])
      simpa [remaining] using head
    have same : trim text = trim (first :: rest) := by
      simp [trim_eq, remaining, visible]
    obtain ⟨kept, trimmed, -⟩ := trim_visible first rest visible
    have start : (trim text).dropWhile isBlank = trim text := by
      simp [same, trimmed, visible]
    rw [trim_eq (trim text), start, trim_eq text, List.rdropWhile_idempotent]

/-- A trimmed text begins with a visible character. -/
theorem visible_of_trimmed {first : Char} {rest : Text}
    (trimmed : trim (first :: rest) = first :: rest) : isBlank first = false := by
  cases blank : isBlank first with
  | false => rfl
  | true =>
    have dropped : trim (first :: rest) = trim rest := by simp [trim_eq, blank]
    have shorter := (trim_within rest).length_le
    rw [← dropped, trimmed, List.length_cons] at shorter
    omega

theorem space_blank : ∀ char ∈ [' '], isBlank char = true :=
  List.forall_mem_singleton.2 (by decide)

/-- Blank characters in front of a text do not count. -/
theorem trim_blank_append (space text : Text) (blank : ∀ char ∈ space, isBlank char = true) :
    trim (space ++ text) = trim text := by
  rw [trim_eq, trim_eq, List.dropWhile_append_of_pos blank]

theorem trim_append_blank (text space : Text) (blank : ∀ char ∈ space, isBlank char = true) :
    trim (text ++ space) = trim text := by
  have behind (part : Text) : (part ++ space).rdropWhile isBlank = part.rdropWhile isBlank := by
    rw [List.rdropWhile, List.reverse_append, List.dropWhile_append_of_pos]
    · rfl
    · exact fun char member => blank char (List.mem_reverse.1 member)
  rw [trim_eq, trim_eq, List.dropWhile_append]
  split
  · rename_i gone
    rw [List.isEmpty_iff.1 gone, List.dropWhile_eq_nil_iff.2 blank]
  · exact behind _

/-- A text that begins and ends with a visible character. -/
structure VisibleEnds (text : Text) : Prop where
  first : text.head?.any (fun char => !isBlank char) = true
  last : text.getLast?.any (fun char => !isBlank char) = true

theorem VisibleEnds.trimmed {text : Text} (visible : VisibleEnds text) : trim text = text := by
  have start : text.dropWhile isBlank = text := by
    cases text with
    | nil => rfl
    | cons first rest =>
      have shown : isBlank first = false := by simpa using visible.first
      rw [List.dropWhile_cons_of_neg (by simp [shown])]
  rw [trim_eq, start, List.rdropWhile_eq_self_iff]
  intro nonempty
  have shown := visible.last
  rw [List.getLast?_eq_some_getLast nonempty] at shown
  simpa using shown

theorem VisibleEnds.append {start stop : Text} (opens : VisibleEnds start)
    (closes : VisibleEnds stop) (middle : Text) : VisibleEnds (start ++ middle ++ stop) where
  first := by
    have shown := opens.first
    cases start with
    | nil => cases shown
    | cons first rest => exact shown
  last := by
    have shown := closes.last
    cases last : stop.getLast? with
    | none =>
      rw [last] at shown
      cases shown
    | some char =>
      rw [last] at shown
      rw [List.getLast?_append, last]
      exact shown

/-- Behind a visible start, only the blank end of a text is left out. -/
theorem VisibleEnds.trim_append {start : Text} (visible : VisibleEnds start) (rest : Text) :
    ∃ kept space, rest = kept ++ space ∧ (∀ char ∈ space, isBlank char = true) ∧
      trim (start ++ rest) = start ++ kept := by
  induction rest using List.reverseRecOn with
  | nil => exact ⟨[], [], rfl, by simp, by rw [List.append_nil, visible.trimmed]⟩
  | append_singleton rest last inductionHypothesis =>
    cases blank : isBlank last with
    | true =>
      have alone : ∀ char ∈ [last], isBlank char = true := by simp [blank]
      obtain ⟨kept, space, rfl, spaceBlank, trimmed⟩ := inductionHypothesis
      refine ⟨kept, space ++ [last], (List.append_assoc _ _ _), ?_, ?_⟩
      · exact List.forall_mem_append.2 ⟨spaceBlank, alone⟩
      · rw [← List.append_assoc start, trim_append_blank _ _ alone, trimmed]
    | false =>
      have stop : VisibleEnds [last] := ⟨by simp [blank], by simp [blank]⟩
      refine ⟨rest ++ [last], [], (List.append_nil _).symm, by simp, ?_⟩
      rw [← List.append_assoc, (visible.append stop rest).trimmed]

theorem trim_isInline {text : Text} (oneLine : '\n' ∉ text) : IsInline (trim text) where
  trimmed := trim_trim text
  oneLine := fun member => oneLine (mem_of_mem_trim member)

/-- A part between separators is made of other characters of the text. -/
theorem splitOn_part (separator : Char) (text part : Text)
    (member : part ∈ splitOn separator text) : separator ∉ part ∧ part ⊆ text := by
  induction text generalizing part with
  | nil => simp_all [splitOn]
  | cons first rest inductionHypothesis =>
    have longer : rest ⊆ first :: rest := List.subset_cons_self first rest
    by_cases separates : first = separator
    · rw [splitOn, if_pos separates] at member
      rcases List.mem_cons.1 member with empty | later
      · simp [empty]
      · obtain ⟨apart, within⟩ := inductionHypothesis part later
        exact ⟨apart, List.Subset.trans within longer⟩
    · rw [splitOn, if_neg separates] at member
      cases parts : splitOn separator rest with
      | nil =>
        rw [parts, prependFirst, List.mem_singleton] at member
        simpa [member] using Ne.symm separates
      | cons next others =>
        rw [parts] at inductionHypothesis
        rw [parts, prependFirst] at member
        rcases List.mem_cons.1 member with extended | later
        · obtain ⟨apart, within⟩ := inductionHypothesis next List.mem_cons_self
          rw [extended]
          exact ⟨by simp [apart, Ne.symm separates], List.cons_subset_cons first within⟩
        · obtain ⟨apart, within⟩ := inductionHypothesis part (List.mem_cons_of_mem _ later)
          exact ⟨apart, List.Subset.trans within longer⟩

end Text

end QuadrantChart
