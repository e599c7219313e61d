/-
This file takes apart results that may be faults: a sequence of steps succeeds when each of its
steps does.
-/

import Mathlib.Data.List.Forall2

namespace QuadrantChart

namespace Result

variable {Error First Second : Type}

theorem bind_ok {first : Except Error First} {next : First → Except Error Second}
    {result : Second} :
    first >>= next = .ok result ↔ ∃ value, first = .ok value ∧ next value = .ok result := by
  cases first <;> simp [bind, Except.bind]

theorem bind_error {first : Except Error First} {next : First → Except Error Second}
    {error : Error} :
    first >>= next = .error error ↔
      first = .error error ∨ ∃ value, first = .ok value ∧ next value = .error error := by
  cases first <;> simp [bind, Except.bind]

theorem pure_ok {value result : First} :
    (pure value : Except Error First) = .ok result ↔ value = result := by
  simp [pure, Except.pure]

theorem isOk_iff {first : Except Error First} :
    first.isOk = true ↔ ∃ value, first = .ok value := by
  cases first <;> simp [Except.isOk, Except.toBool]

theorem map_ok {step : First → Second} {first : Except Error First} {result : Second} :
    first.map step = .ok result ↔ ∃ value, first = .ok value ∧ step value = result := by
  cases first <;> simp [Except.map]

/-- A step for each member of a list gives a result for each of them. -/
theorem mapM_ok {step : First → Except Error Second} {values : List First}
    {results : List Second} :
    values.mapM step = .ok results ↔
      List.Forall₂ (fun value result => step value = .ok result) values results := by
  induction values generalizing results with
  | nil =>
    rw [List.mapM_nil, pure_ok, List.forall₂_nil_left_iff, eq_comm]
  | cons value values inductionHypothesis =>
    simp only [List.mapM_cons, bind_ok, pure_ok, inductionHypothesis, List.forall₂_cons_left_iff]
    constructor
    · rintro ⟨first, found, others, each, rfl⟩
      exact ⟨first, others, found, each, rfl⟩
    · rintro ⟨first, others, found, each, rfl⟩
      exact ⟨first, found, others, each, rfl⟩

/-- Each result is that of a member of the list. -/
theorem mapM_mem {step : First → Except Error Second} {values : List First}
    {results : List Second} (made : values.mapM step = .ok results) {result : Second}
    (member : result ∈ results) : ∃ value ∈ values, step value = .ok result := by
  induction mapM_ok.1 made with
  | nil => cases member
  | cons found others inductionHypothesis =>
    rcases List.mem_cons.1 member with rfl | later
    · exact ⟨_, List.mem_cons_self, found⟩
    · obtain ⟨value, inside, found⟩ := inductionHypothesis (mapM_ok.2 others) later
      exact ⟨value, List.mem_cons_of_mem _ inside, found⟩

end Result

end QuadrantChart
