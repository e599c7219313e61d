/-
This file proves for which lengths the loop that draws dashes comes to its end: it does not get
beyond `2 ^ 53` times the least power of two that the dashes do not exceed.
-/

import Mathlib.Data.Nat.Log
import QuadrantChart.Preview.Dash
import QuadrantChart.Proofs.Binary64.Extent

namespace QuadrantChart

namespace Dash

namespace Loop

/-- One pass draws a dash from a position on, and goes on behind its gap. -/
def pass (loop : Loop) (position : Binary64) : Binary64 :=
  (position + loop.dash).min loop.limit + loop.gap

/-- After some passes the position is not before the limit any more. -/
def Ends (loop : Loop) (position : Binary64) : Prop :=
  ∃ passes, ((loop.pass)^[passes] position).lt loop.limit = false

/-- The greatest position that dashes of a length get to, in units. -/
def reach (dash : Nat) : Nat :=
  2 ^ (53 + Nat.clog 2 dash)

def WithinReach (loop : Loop) : Prop :=
  loop.limit.extent ≤ reach loop.dash.extent

/-- Dashes have a length, and gaps are no longer than dashes. -/
structure Regular (loop : Loop) (dash gap : Nat) : Prop where
  dashExtent : loop.dash.IsExtent dash
  gapExtent : loop.gap.IsExtent gap
  positive : 0 < dash
  order : gap ≤ dash

theorem reach_small (dash : Nat) : dash ≤ 2 ^ Nat.clog 2 dash :=
  Nat.le_pow_clog (by decide) dash

theorem reach_close {dash : Nat} (positive : 0 < dash) : 2 ^ Nat.clog 2 dash < 2 * dash := by
  by_cases one : dash = 1
  · subst one
    decide
  · have below := Nat.pow_pred_clog_lt_self (by decide : 1 < 2) (by omega : 1 < dash)
    have exponent : 0 < Nat.clog 2 dash := Nat.clog_pos (by decide) (by omega)
    rw [← Nat.succ_pred_eq_of_pos exponent, Nat.pow_succ]
    omega

/-- Some power of two separates the dashes from a limit that is out of their reach. -/
theorem not_withinReach {loop : Loop} {exponent : Nat} (short : loop.dash.extent ≤ 2 ^ exponent)
    (long : 2 ^ (53 + exponent) < loop.limit.extent) : ¬loop.WithinReach := by
  have power : Nat.clog 2 loop.dash.extent ≤ exponent := Nat.clog_le_of_le_pow short
  have bounded : reach loop.dash.extent ≤ 2 ^ (53 + exponent) :=
    Nat.pow_le_pow_right (by decide) (by omega)
  exact fun within => absurd (Nat.le_trans within bounded) (Nat.not_le_of_lt long)

/-- From within the reach, a dash does not get beyond it. -/
theorem confined_step {dash units step : Nat} (confined : units ≤ reach dash)
    (short : step ≤ dash) : Binary64.cappedUnits (units + step) ≤ reach dash :=
  calc
    Binary64.cappedUnits (units + step) ≤ Binary64.roundedQuotient (units + step) 1 :=
      Binary64.cappedUnits_le
    _ ≤ Binary64.roundedQuotient (reach dash + step) 1 :=
      Binary64.roundedQuotient_mono 1 (Nat.add_le_add_right confined step)
    _ = reach dash := Binary64.roundedQuotient_absorbs (Nat.le_trans short (reach_small dash))

variable {loop : Loop} {position : Binary64} {limit dash gap units : Nat}

/-- Before the limit, the dash of a pass is followed by those behind the pass, unless the pass is
lost. -/
theorem intervals_pass (below : position.lt loop.limit = true) :
    loop.intervals? position =
      if (loop.pass position).lt loop.limit then
        if position.lt (loop.pass position) then
          (loop.intervals? (loop.pass position)).map
            ((position, (position + loop.dash).min loop.limit) :: ·)
        else none
      else some [(position, (position + loop.dash).min loop.limit)] := by
  rw [intervals?, Dash.intervals?, if_pos below]
  simp only [dite_eq_ite]
  rfl

section Passes

variable (regular : loop.Regular dash gap) (limitExtent : loop.limit.IsExtent limit)
  (extent : position.IsExtent units)
include regular limitExtent extent

theorem pass_extent : (loop.pass position).IsExtent
    (Binary64.cappedUnits (min (Binary64.cappedUnits (units + dash)) limit + gap)) :=
  ((extent.add regular.dashExtent).min limitExtent).add regular.gapExtent

/-- Within reach, every pass advances. -/
theorem pass_advances (below : units < limit) (within : limit ≤ reach dash) :
    ∃ next, (loop.pass position).IsExtent next ∧ units < next := by
  refine ⟨_, pass_extent regular limitExtent extent, ?_⟩
  have stop := (extent.add regular.dashExtent).min limitExtent
  have advances : units < Binary64.cappedUnits (units + dash) :=
    Nat.lt_min.2 ⟨Binary64.roundedQuotient_advances (Nat.lt_of_lt_of_le below within)
      (reach_close regular.positive), Nat.lt_of_lt_of_le below limitExtent.bounded⟩
  exact Nat.lt_of_lt_of_le (Nat.lt_min.2 ⟨advances, below⟩)
    (stop.le_cappedUnits (Nat.le_add_right _ _))

/-- No pass gets beyond the reach. -/
theorem pass_confined (confined : units ≤ reach dash) :
    ∃ next ≤ reach dash, (loop.pass position).IsExtent next := by
  refine ⟨_, ?_, pass_extent regular limitExtent extent⟩
  have stop := confined_step confined (Nat.le_refl dash)
  exact confined_step (Nat.le_trans (Nat.min_le_left _ _) stop) regular.order

end Passes

section Run

variable (regular : loop.Regular dash gap) (limitExtent : loop.limit.IsExtent limit)
include regular limitExtent

/-- What holds at the limit, and before a pass when it holds behind it, holds from every position
on, as long as the limit is within reach. -/
theorem run_within {motive : Binary64 → Prop} (within : limit ≤ reach dash)
    (done : ∀ position, position.lt loop.limit = false → motive position)
    (pass : ∀ position, position.lt loop.limit = true → position.lt (loop.pass position) = true →
      motive (loop.pass position) → motive position)
    (extent : position.IsExtent units) : motive position := by
  -- The induction is on the units before the limit, of which every pass leaves fewer.
  induction rest : limit - units using Nat.strongRecOn generalizing position units with
  | _ rest inductionHypothesis =>
    by_cases below : units < limit
    · obtain ⟨next, nextExtent, advances⟩ := pass_advances regular limitExtent extent below within
      exact pass position ((extent.lt_iff limitExtent).2 below)
        ((extent.lt_iff nextExtent).2 advances)
        (inductionHypothesis (limit - next) (by omega) nextExtent rfl)
    · exact done position (Bool.eq_false_iff.2 (mt (extent.lt_iff limitExtent).1 below))

theorem ends_within (within : limit ≤ reach dash) (extent : position.IsExtent units) :
    loop.Ends position := by
  refine run_within regular limitExtent within (fun _ done => ⟨0, done⟩) ?_ extent
  rintro position - - ⟨passes, ended⟩
  exact ⟨passes + 1, ended⟩

theorem intervals_within (within : limit ≤ reach dash) (extent : position.IsExtent units) :
    loop.intervals? position ≠ none := by
  refine run_within (motive := fun position => loop.intervals? position ≠ none) regular limitExtent
    within ?_ ?_ extent
  · intro position done
    rw [intervals?, Dash.intervals?, done]
    exact nofun
  · intro position below advances divided
    rw [intervals_pass below, if_pos advances]
    split_ifs
    · exact mt Option.map_eq_none_iff.1 divided
    · exact nofun

/-- Beyond the reach, no number of passes gets to the limit. -/
theorem iterate_confined (confined : units ≤ reach dash) (extent : position.IsExtent units)
    (passes : Nat) : ∃ next ≤ reach dash, ((loop.pass)^[passes] position).IsExtent next := by
  induction passes generalizing position units with
  | zero => exact ⟨units, confined, extent⟩
  | succ passes inductionHypothesis =>
    obtain ⟨next, nextConfined, nextExtent⟩ := pass_confined regular limitExtent extent confined
    exact inductionHypothesis nextConfined nextExtent

theorem not_ends_beyond (beyond : reach dash < limit) (confined : units ≤ reach dash)
    (extent : position.IsExtent units) : ¬loop.Ends position := by
  rintro ⟨passes, ended⟩
  obtain ⟨next, nextConfined, nextExtent⟩ :=
    iterate_confined regular limitExtent confined extent passes
  have below := (nextExtent.lt_iff limitExtent).2 (Nat.lt_of_le_of_lt nextConfined beyond)
  exact Bool.false_ne_true (ended.symm.trans below)

theorem intervals_beyond (beyond : reach dash < limit) (confined : units ≤ reach dash)
    (extent : position.IsExtent units) : loop.intervals? position = none := by
  -- The induction is on the units before the limit, which decrease until a pass is lost.
  induction rest : limit - units using Nat.strongRecOn generalizing position units with
  | _ rest inductionHypothesis =>
    obtain ⟨next, nextConfined, nextExtent⟩ := pass_confined regular limitExtent extent confined
    have below := (extent.lt_iff limitExtent).2 (Nat.lt_of_le_of_lt confined beyond)
    have inside := (nextExtent.lt_iff limitExtent).2 (Nat.lt_of_le_of_lt nextConfined beyond)
    rw [intervals_pass below, if_pos inside]
    split_ifs with advances
    · have later := (extent.lt_iff nextExtent).1 advances
      rw [inductionHypothesis (limit - next) (by omega) nextConfined nextExtent rfl]
      rfl
    · rfl

end Run

/-- From its start, the loop comes to its end exactly when its limit is within reach, and only then
there are dashes. -/
theorem ends_iff (regular : loop.Regular dash gap) :
    (loop.Ends 0 ↔ loop.WithinReach) ∧ (loop.intervals? 0 ≠ none ↔ loop.WithinReach) := by
  have start : 0 ≤ reach dash := Nat.zero_le _
  have within : loop.WithinReach ↔ loop.limit.extent ≤ reach dash := by
    rw [WithinReach, regular.dashExtent.extent_eq]
  rw [within]
  rcases loop.limit.extent_cases with limitExtent | ⟨done, none⟩
  · by_cases reached : loop.limit.extent ≤ reach dash
    · exact ⟨iff_of_true (ends_within regular limitExtent reached Binary64.zero_isExtent) reached,
        iff_of_true (intervals_within regular limitExtent reached Binary64.zero_isExtent) reached⟩
    · have beyond : reach dash < loop.limit.extent := Nat.lt_of_not_le reached
      have divided := intervals_beyond regular limitExtent beyond start Binary64.zero_isExtent
      exact ⟨iff_of_false (not_ends_beyond regular limitExtent beyond start Binary64.zero_isExtent)
        reached, iff_of_false (absurd divided) reached⟩
  · have reached : loop.limit.extent ≤ reach dash := none ▸ start
    refine ⟨iff_of_true ⟨0, done⟩ reached, iff_of_true ?_ reached⟩
    rw [intervals?, Dash.intervals?, done]
    exact nofun

end Loop

end Dash

end QuadrantChart
