/-
This file divides a length into dashes with gaps between them.
-/

import QuadrantChart.Binary64.Arithmetic

namespace QuadrantChart

namespace Dash

/-- How far the infinite numbers are from a position, which bounds the dashes that can
still follow. -/
def remaining : Binary64 → Nat
  | .finite negative units _ =>
    (Binary64.overflowUnits - Binary64.signedUnits negative units).toNat
  | .infinite true => 2 * Binary64.overflowUnits + 1
  | _ => 0

theorem remaining_decreases {position next limit : Binary64}
    (advances : position.lt next = true) (inside : next.lt limit = true) :
    remaining next < remaining position := by
  cases next with
  | nan => simp [Binary64.lt] at inside
  | infinite negative =>
    cases negative
    · cases limit <;> simp [Binary64.lt] at inside
    · cases position <;> simp [Binary64.lt] at advances
  | finite negative units representable =>
    have bound := representable.1
    cases position with
    | nan => simp [Binary64.lt] at advances
    | infinite positionNegative =>
      simp only [Binary64.lt] at advances
      subst advances
      simp only [remaining, Binary64.signedUnits]
      split <;> omega
    | finite positionNegative positionUnits positionRepresentable =>
      have positionBound := positionRepresentable.1
      simp only [Binary64.lt, decide_eq_true_eq] at advances
      have below : Binary64.signedUnits negative units < Binary64.overflowUnits := by
        simp only [Binary64.signedUnits]
        split <;> omega
      simp only [remaining]
      omega

/-- The start and the end of each dash from a position on. The last one ends at the limit at the
latest. There is no answer when a dash and its gap are too short to advance the position. -/
def intervals? (limit dash gap position : Binary64) : Option (List (Binary64 × Binary64)) :=
  if position.lt limit then
    let stop := (position + dash).min limit
    let next := stop + gap
    if _ : next.lt limit then
      if _ : position.lt next then
        (intervals? limit dash gap next).map ((position, stop) :: ·)
      else none
    else some [(position, stop)]
  else some []
termination_by remaining position
decreasing_by exact remaining_decreases (by assumption) (by assumption)

/-- The end of a line, and what is added to a position for a dash and for a gap. -/
structure Loop where
  limit : Binary64
  dash : Binary64
  gap : Binary64
  deriving DecidableEq

namespace Loop

def intervals? (loop : Loop) (position : Binary64) : Option (List (Binary64 × Binary64)) :=
  Dash.intervals? loop.limit loop.dash loop.gap position

end Loop

end Dash

end QuadrantChart
