/-
This file computes the dashes of a line along an axis whose length is a whole number.
-/

import QuadrantChart.Proofs.Preview.Drawing
import QuadrantChart.Proofs.Number.Whole

namespace QuadrantChart

open Binary64 (ofNat ofQuotient)

namespace Dash

variable {limit dash gap position : Nat}

/-- A pass below the limit in whole numbers. -/
theorem intervals_pass (dashSmall : limit + dash ≤ 2 ^ 53) (gapSmall : limit + gap ≤ 2 ^ 53)
    (below : position < limit) :
    let stop := min (position + dash) limit
    intervals? (ofNat limit) (ofNat dash) (ofNat gap) (ofNat position) =
      if stop + gap < limit then
        if position < stop + gap then
          (intervals? (ofNat limit) (ofNat dash) (ofNat gap) (ofNat (stop + gap))).map
            ((ofNat position, ofNat stop) :: ·)
        else none
      else some [(ofNat position, ofNat stop)] := by
  intro stop
  have bounded : stop ≤ limit := Nat.min_le_right _ _
  have starts : (ofNat position).lt (ofNat limit) = true :=
    (Binary64.ofNat_lt (by omega) (by omega)).2 below
  have stops : (ofNat position + ofNat dash).min (ofNat limit) = ofNat stop := by
    rw [Binary64.ofNat_add (by omega) (by omega), Binary64.ofNat_min (by omega) (by omega)]
  have next : ofNat stop + ofNat gap = ofNat (stop + gap) :=
    Binary64.ofNat_add (by omega) (by omega)
  rw [intervals?, if_pos starts]
  dsimp only
  rw [stops, next]
  simp only [Binary64.ofNat_lt (by omega : stop + gap ≤ 2 ^ 53) (by omega : limit ≤ 2 ^ 53),
    Binary64.ofNat_lt (by omega : position ≤ 2 ^ 53) (by omega : stop + gap ≤ 2 ^ 53),
    dite_eq_ite]

/-- In whole numbers, dashes start at the multiples of a dash with its gap, up to the last one that
lies below the limit. -/
theorem intervals_whole (dashSmall : limit + dash ≤ 2 ^ 53) (gapSmall : limit + gap ≤ 2 ^ 53)
    (first rest : Nat) (below : (dash + gap) * (first + rest) < limit)
    (past : limit ≤ (dash + gap) * (first + rest + 1)) :
    intervals? (ofNat limit) (ofNat dash) (ofNat gap) (ofNat ((dash + gap) * first)) =
      some ((List.range' first (rest + 1)).map fun index =>
        (ofNat ((dash + gap) * index), ofNat (min ((dash + gap) * index + dash) limit))) := by
  -- The induction is on the dashes behind the first one, of which the last one ends the recursion.
  induction rest generalizing first with
  | zero =>
    rw [Nat.add_zero] at below past
    rw [Nat.mul_succ] at past
    rw [intervals_pass dashSmall gapSmall below, if_neg (by omega)]
    rfl
  | succ rest inductionHypothesis =>
    have step : (dash + gap) * (first + 1) = (dash + gap) * first + (dash + gap) :=
      Nat.mul_succ _ _
    have beyond : (dash + gap) * (first + 1) ≤ (dash + gap) * (first + (rest + 1)) :=
      Nat.mul_le_mul_left _ (by omega)
    have final : (dash + gap) * (first + (rest + 1) + 1) =
        (dash + gap) * (first + (rest + 1)) + (dash + gap) := Nat.mul_succ _ _
    have next : min ((dash + gap) * first + dash) limit + gap = (dash + gap) * (first + 1) := by
      omega
    have shifted : first + 1 + rest = first + (rest + 1) := by omega
    rw [intervals_pass dashSmall gapSmall (by omega), next, if_pos (by omega), if_pos (by omega),
      inductionHypothesis (first + 1) (shifted ▸ below) (shifted ▸ past)]
    rfl

end Dash

namespace Preview

/-- How a coordinate goes along a line of a whole length, of which the step is its part. -/
structure Course (start stop : Number) (length : Nat) (step : Binary64) (place : Nat → Binary64) :
    Prop where
  change : ∃ difference, stop.sub start = .ok difference ∧ difference.toDouble = .ok step
  places : ∀ position ≤ length,
    start.add (.double (step / ofNat length * ofNat position)) = .ok (.double (place position))

namespace Course

variable {start stop : Number} {first last length : Nat}

/-- A coordinate in halves that does not change stays exactly where it is. -/
theorem level {count : Nat} (countSmall : count ≤ 2 ^ 53) (positive : 0 < length)
    (small : length ≤ 2 ^ 53) :
    let value := ofQuotient false count 2
    Course (.double value) (.double value) length (value - value) fun _ => value := by
  intro value
  have finite : value = _ := Binary64.ofQuotient_halves countSmall
  have amount : value.IsAmount _ := Binary64.halves_amount countSmall
  refine ⟨⟨_, rfl, rfl⟩, fun position bounded => ?_⟩
  have shift := (amount.sub_self.div_level small positive).mul_level
    (Binary64.ofNat_amount (by omega : position ≤ 2 ^ 53))
  have kept := shift.add_level (Binary64.representable_halves countSmall)
  rw [← finite] at kept
  exact congrArg (fun sum => Except.ok (Number.double sum)) kept

/-- A coordinate between whole numbers passes through the whole numbers between them. -/
theorem along (startWhole : start.IsWhole first) (stopWhole : stop.IsWhole last)
    (order : first < last) (small : last ≤ 2 ^ 53) :
    Course start stop (last - first) (ofNat (last - first)) fun position =>
      ofNat (first + position) := by
  obtain ⟨difference, change, whole⟩ := stopWhole.sub startWhole small (by omega)
  refine ⟨⟨difference, change, whole.toDouble_positive (by omega) (by omega)⟩, ?_⟩
  intro position bounded
  rw [Binary64.ofNat_div_self (by omega) (by omega), Binary64.one_mul]
  exact startWhole.add_ofNat (by omega) (by omega)

end Course

/-- A line of a whole length along an axis is divided into dashes of six times the scale and gaps
of four times the scale. -/
theorem dashedCalls_whole {start stop : Number × Number} {length factor : Nat} {scale : Number}
    {acrossStep downStep : Binary64} {x y : Nat → Binary64}
    (across : Course start.1 stop.1 length acrossStep x)
    (down : Course start.2 stop.2 length downStep y)
    (measured : Binary64.length acrossStep downStep = ofNat length)
    (whole : scale.IsWhole factor) (factorPositive : 0 < factor) (positive : 0 < length)
    (small : length + 6 * factor ≤ 2 ^ 53) (rest : Nat) (below : 10 * factor * rest < length)
    (past : length ≤ 10 * factor * (rest + 1)) (color : Text) (width : Int) :
    dashedCalls start stop color width scale = .ok ((List.range (rest + 1)).map fun index =>
      let first := 10 * factor * index
      let last := min (first + 6 * factor) length
      .line ⟨x first, y first, x last, y last⟩ color width) := by
  have scaled (part : Nat) (partPositive : 0 < part) (bounded : part * factor ≤ 2 ^ 53) :
      ∃ product, (Number.double (ofNat part)).mul scale = .ok product ∧
        product.toDouble = .ok (ofNat (part * factor)) := by
    have partSmall : part ≤ part * factor := Nat.le_mul_of_pos_right _ factorPositive
    have factorSmall : factor ≤ part * factor := Nat.le_mul_of_pos_left _ partPositive
    have partWhole : (Number.double (ofNat part)).IsWhole part :=
      Binary64.ofNat_amount (by omega)
    obtain ⟨product, multiplied, productWhole⟩ := partWhole.mul whole (by omega) (by omega) bounded
    exact ⟨product, multiplied,
      productWhole.toDouble_positive (Nat.mul_pos partPositive factorPositive) bounded⟩
  obtain ⟨dash, (dashScaled : Number.mul (.double 6) scale = _), dashDouble⟩ :=
    scaled 6 (by decide) (by omega)
  obtain ⟨gap, (gapScaled : Number.mul (.double 4) scale = _), gapDouble⟩ :=
    scaled 4 (by decide) (by omega)
  have long : ¬(ofNat length).eq 0 = true := by
    rw [Binary64.ofNat_eq_zero (by omega)]
    omega
  have divided : Dash.intervals? (ofNat length) (ofNat (6 * factor)) (ofNat (4 * factor)) 0 =
      some ((List.range (rest + 1)).map fun index => (ofNat (10 * factor * index),
        ofNat (min (10 * factor * index + 6 * factor) length))) := by
    have period : 6 * factor + 4 * factor = 10 * factor := by omega
    have intervals := Dash.intervals_whole small (by omega : length + 4 * factor ≤ 2 ^ 53) 0 rest
    rw [period, Nat.zero_add, Nat.mul_zero, ← List.range_eq_range'] at intervals
    exact intervals below past
  let line : DashedLine :=
    ⟨start, acrossStep, downStep, ⟨ofNat length, ofNat (6 * factor), ofNat (4 * factor)⟩⟩
  have between : DashedLine.between start stop scale = .ok line :=
    DashedLine.between_ok.2 ⟨⟨dash, dashScaled, dashDouble⟩, ⟨gap, gapScaled, gapDouble⟩,
      across.change, down.change, rfl, measured.symm⟩
  have placed (position : Nat) (bounded : position ≤ length) :
      line.place (ofNat position) = .ok (.double (x position), .double (y position)) := by
    have acrossPlace : line.start.1.add _ = _ := across.places position bounded
    have downPlace : line.start.2.add _ = _ := down.places position bounded
    rw [DashedLine.place, acrossPlace, downPlace]
    rfl
  refine dashedCalls_made.2 ⟨line, between, .inr ⟨_, long, divided, ?_⟩⟩
  rw [Result.mapM_ok, List.forall₂_map_left_iff, List.forall₂_map_right_iff, List.forall₂_same]
  intro index member
  have started : 10 * factor * index ≤ 10 * factor * rest :=
    Nat.mul_le_mul_left _ (Nat.le_of_lt_succ (List.mem_range.1 member))
  rw [DashedLine.dash, placed _ (by omega), placed _ (Nat.min_le_right _ _)]
  rfl

end Preview

end QuadrantChart
