/-
This file proves that splitting a text takes apart what was joined with the separator.
-/

import QuadrantChart.Text.Basic

namespace QuadrantChart

namespace Text

variable {separator : Char}

theorem splitOn_clean {part : Text} (clean : separator ∉ part) :
    splitOn separator part = [part] := by
  induction part with
  | nil => rfl
  | cons first rest inductionHypothesis =>
    rw [List.mem_cons, not_or] at clean
    rw [splitOn, if_neg (Ne.symm clean.1), inductionHypothesis clean.2]
    rfl

theorem splitOn_append {part : Text} (clean : separator ∉ part) (rest : Text) :
    splitOn separator (part ++ separator :: rest) = part :: splitOn separator rest := by
  induction part with
  | nil => rw [List.nil_append, splitOn, if_pos rfl]
  | cons first others inductionHypothesis =>
    rw [List.mem_cons, not_or] at clean
    rw [List.cons_append, splitOn, if_neg (Ne.symm clean.1), inductionHypothesis clean.2]
    rfl

/-- Joined parts without the separator are found again. -/
theorem splitOn_join {parts : List Text} (nonempty : parts ≠ [])
    (clean : ∀ part ∈ parts, separator ∉ part) :
    splitOn separator (join [separator] parts) = parts := by
  induction parts with
  | nil => exact absurd rfl nonempty
  | cons part parts inductionHypothesis =>
    obtain ⟨here, later⟩ := List.forall_mem_cons.1 clean
    cases parts with
    | nil => exact splitOn_clean here
    | cons next others =>
      rw [join, List.append_assoc, List.singleton_append, splitOn_append here,
        inductionHypothesis (List.cons_ne_nil _ _) later]

theorem splitOn_nonempty (separator : Char) (text : Text) : splitOn separator text ≠ [] := by
  cases text with
  | nil => exact List.cons_ne_nil _ _
  | cons first rest =>
    rw [splitOn]
    split
    · exact List.cons_ne_nil _ _
    · cases splitOn separator rest <;> exact List.cons_ne_nil _ _

theorem join_prependFirst (separator : Text) (char : Char) (parts : List Text) :
    join separator (prependFirst char parts) = char :: join separator parts := by
  rcases parts with _ | ⟨part, _ | ⟨next, others⟩⟩ <;> rfl

/-- A text is its parts with the separator between them. -/
theorem join_splitOn (separator : Char) (text : Text) :
    join [separator] (splitOn separator text) = text := by
  induction text with
  | nil => rfl
  | cons first rest inductionHypothesis =>
    rw [splitOn]
    split
    · rename_i same
      obtain ⟨part, others, parts⟩ := List.exists_cons_of_ne_nil (splitOn_nonempty separator rest)
      rw [parts] at inductionHypothesis ⊢
      rw [join, inductionHypothesis, same]
      rfl
    · rw [join_prependFirst, inductionHypothesis]

/-- What stands before the first separator is found. -/
theorem splitFirst_append {part : Text} (clean : separator ∉ part) (rest : Text) :
    splitFirst separator (part ++ separator :: rest) = some (part, rest) := by
  induction part with
  | nil => rw [List.nil_append, splitFirst, if_pos rfl]
  | cons first others inductionHypothesis =>
    rw [List.mem_cons, not_or] at clean
    rw [List.cons_append, splitFirst, if_neg (Ne.symm clean.1), inductionHypothesis clean.2]
    rfl

theorem join_concat (separator : Text) {parts : List Text} (nonempty : parts ≠ []) (last : Text) :
    join separator (parts ++ [last]) = join separator parts ++ separator ++ last := by
  induction parts with
  | nil => exact absurd rfl nonempty
  | cons part parts inductionHypothesis =>
    cases parts with
    | nil => rfl
    | cons next others =>
      have remaining := inductionHypothesis (List.cons_ne_nil _ _)
      rw [List.cons_append] at remaining
      simp only [List.cons_append, join, remaining, List.append_assoc]

/-- A joined text has only characters of its parts and of the separator. -/
theorem notMem_join {separator : Text} {char : Char} {parts : List Text}
    (between : char ∉ separator) (each : ∀ part ∈ parts, char ∉ part) :
    char ∉ join separator parts := by
  induction parts with
  | nil => simp [join]
  | cons part parts inductionHypothesis =>
    obtain ⟨here, later⟩ := List.forall_mem_cons.1 each
    cases parts with
    | nil => exact here
    | cons next others =>
      rw [join, List.mem_append, List.mem_append, not_or, not_or]
      exact ⟨⟨here, between⟩, inductionHypothesis later⟩

theorem length_le_join (separator : Text) {parts : List Text} (each : ∀ part ∈ parts, part ≠ []) :
    parts.length ≤ (join separator parts).length := by
  induction parts with
  | nil => exact Nat.le_refl 0
  | cons part parts inductionHypothesis =>
    obtain ⟨here, later⟩ := List.forall_mem_cons.1 each
    have one := List.length_pos_iff.2 here
    have others := inductionHypothesis later
    cases parts with
    | nil => exact one
    | cons next rest =>
      rw [join, List.length_append, List.length_append, List.length_cons]
      omega

end Text

end QuadrantChart
