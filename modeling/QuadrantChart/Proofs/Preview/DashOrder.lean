/-
This file proves that the dashes of a line follow one another in order, also when the loop that
draws them never ends.
-/

import Mathlib.Data.List.Chain
import QuadrantChart.Proofs.Number.Whole
import QuadrantChart.Proofs.Preview.DashReach

namespace QuadrantChart

namespace Binary64

variable {value first second third : Binary64} {units otherUnits : Nat}

/-- A finite number above zero. -/
def IsLength (value : Binary64) : Prop :=
  value.isFinite = true ∧ Binary64.lt 0 value = true

instance (value : Binary64) : Decidable value.IsLength :=
  inferInstanceAs (Decidable (_ ∧ _))

theorem IsLength.isExtent (isLength : value.IsLength) :
    ∃ units, 0 < units ∧ value.IsExtent units := by
  obtain ⟨finite, positive⟩ := isLength
  rcases value.extent_cases with extent | ⟨notPositive, -⟩
  · exact ⟨_, (zero_isExtent.lt_iff extent).1 positive, extent⟩
  · exact absurd positive (Bool.eq_false_iff.1 notPositive)

/-- Only zero has a second number of the same extent. -/
theorem IsExtent.eq_of_same (firstExtent : first.IsExtent units)
    (secondExtent : second.IsExtent otherUnits) (same : units = otherUnits) (positive : 0 < units) :
    first = second := by
  subst same
  rcases firstExtent with ⟨rfl, rfl⟩ | amount <;>
    rcases secondExtent with ⟨rfl, other⟩ | otherAmount
  · rfl
  · exact absurd otherAmount.representable.1 (Nat.lt_irrefl _)
  · exact absurd (other ▸ amount.representable.1) (Nat.lt_irrefl _)
  · rw [amount.eq_finite positive, otherAmount.eq_finite positive]

theorem le_trans (order : first.le second = true) (otherOrder : second.le third = true) :
    first.le third = true := by
  cases first <;> cases second <;> cases third <;> grind [le, lt, isNan]

end Binary64

namespace Dash.Loop

/-- Where the loop is, and the start and the end of each dash that it has drawn so far. -/
structure Progress where
  position : Binary64
  drawn : List (Binary64 × Binary64)

/-- The end of the dash from a position on. -/
def stop (loop : Loop) (position : Binary64) : Binary64 :=
  (position + loop.dash).min loop.limit

/-- Before the limit, a pass draws a dash and goes on behind its gap. At the limit nothing more
happens. -/
def advance (loop : Loop) (progress : Progress) : Progress :=
  if progress.position.lt loop.limit then
    { position := loop.pass progress.position
      drawn := progress.drawn ++ [(progress.position, loop.stop progress.position)] }
  else progress

/-- The progress after a number of passes. -/
def progress (loop : Loop) (passes : Nat) : Progress :=
  (loop.advance)^[passes] ⟨0, []⟩

/-- Dashes from zero on, in their order. -/
structure InOrder (loop : Loop) (drawn : List (Binary64 × Binary64)) : Prop where
  begins : ∀ dash ∈ drawn.head?, dash.1 = 0
  inside : ∀ dash ∈ drawn, dash.1.lt loop.limit = true ∧ dash.1.le dash.2 = true ∧
    dash.2.le loop.limit = true
  stops : ∀ dash ∈ drawn, dash.2 = loop.limit ∨ dash.2 = dash.1 + loop.dash
  follows : drawn.IsChain fun dash next => next.1 = dash.2 + loop.gap
  apart : drawn.Pairwise fun earlier later => earlier.2.le later.1 = true
  /-- No dash follows one that ends at the limit. -/
  last : drawn.Pairwise fun earlier _ => earlier.2.eq loop.limit = false

/-- What holds of the loop before every pass. -/
structure Invariant (loop : Loop) (progress : Progress) : Prop where
  extent : ∃ units, progress.position.IsExtent units
  start : progress.drawn = [] → progress.position = 0
  next : ∀ dash ∈ progress.drawn.getLast?, progress.position = dash.2 + loop.gap
  behind : ∀ dash ∈ progress.drawn, dash.2.le progress.position = true
  unended : progress.position.lt loop.limit = true →
    ∀ dash ∈ progress.drawn, dash.2.eq loop.limit = false
  inOrder : loop.InOrder progress.drawn

/-- What a pass from a position on draws, and how it goes on. -/
structure Draws (loop : Loop) (position : Binary64) : Prop where
  forward : position.le (loop.stop position) = true
  inside : (loop.stop position).le loop.limit = true
  stops : loop.stop position = loop.limit ∨ loop.stop position = position + loop.dash
  behind : (loop.stop position).le (loop.pass position) = true
  unended : (loop.pass position).lt loop.limit = true → (loop.stop position).eq loop.limit = false
  extent : ∃ units, (loop.pass position).IsExtent units

variable {loop : Loop} {position : Binary64} {limit dash gap units : Nat}

section Pass

variable (limitExtent : loop.limit.IsExtent limit) (dashExtent : loop.dash.IsExtent dash)
  (gapExtent : loop.gap.IsExtent gap) (extent : position.IsExtent units)
include limitExtent dashExtent gapExtent extent

theorem pass_draws (below : position.lt loop.limit = true) : loop.Draws position := by
  have stopExtent : (loop.stop position).IsExtent _ := (extent.add dashExtent).min limitExtent
  have passExtent : (loop.pass position).IsExtent _ := stopExtent.add gapExtent
  have order := (extent.lt_iff limitExtent).1 below
  have stopAhead : units ≤ Binary64.cappedUnits (units + dash) :=
    extent.le_cappedUnits (Nat.le_add_right units dash)
  have passAhead := stopExtent.le_cappedUnits
    (Nat.le_add_right (min (Binary64.cappedUnits (units + dash)) limit) gap)
  refine ⟨(extent.le_iff stopExtent).2 (by omega), (stopExtent.le_iff limitExtent).2 (by omega),
    ?_, (stopExtent.le_iff passExtent).2 passAhead, fun unended => ?_, _, passExtent⟩
  · rw [stop, Binary64.min]
    split_ifs
    · exact .inl rfl
    · exact .inr rfl
  · have passBelow := (passExtent.lt_iff limitExtent).1 unended
    have notAbove : ¬loop.limit.le (loop.stop position) = true := by
      rw [limitExtent.le_iff stopExtent]
      omega
    rw [Binary64.eq, Bool.eq_false_iff.2 notAbove, Bool.and_false]

/-- A pass that does not advance leads back to the same position. -/
theorem pass_stuck (positive : 0 < dash) (inside : (loop.pass position).lt loop.limit = true)
    (stuck : ¬position.lt (loop.pass position) = true) : loop.pass position = position := by
  have stopExtent : (loop.stop position).IsExtent _ := (extent.add dashExtent).min limitExtent
  have passExtent : (loop.pass position).IsExtent _ := stopExtent.add gapExtent
  have passBelow := (passExtent.lt_iff limitExtent).1 inside
  have notAhead := mt (extent.lt_iff passExtent).2 stuck
  have dashAhead : dash ≤ Binary64.cappedUnits (units + dash) :=
    dashExtent.le_cappedUnits (Nat.le_add_left dash units)
  have stopAhead : units ≤ Binary64.cappedUnits (units + dash) :=
    extent.le_cappedUnits (Nat.le_add_right units dash)
  have passAhead := stopExtent.le_cappedUnits
    (Nat.le_add_right (min (Binary64.cappedUnits (units + dash)) limit) gap)
  refine passExtent.eq_of_same extent ?_ (by omega)
  omega

end Pass

/-- A dash behind all others keeps the order when it begins where they go on. -/
theorem InOrder.append {drawn : List (Binary64 × Binary64)} (inOrder : loop.InOrder drawn)
    (start : drawn = [] → position = 0)
    (next : ∀ dash ∈ drawn.getLast?, position = dash.2 + loop.gap)
    (behind : ∀ dash ∈ drawn, dash.2.le position = true)
    (unended : ∀ dash ∈ drawn, dash.2.eq loop.limit = false)
    (below : position.lt loop.limit = true) (draws : loop.Draws position) :
    loop.InOrder (drawn ++ [(position, loop.stop position)]) where
  begins := by
    cases drawn with
    | nil =>
      rintro _ ⟨⟩
      exact start rfl
    | cons first rest => exact inOrder.begins
  inside := List.forall_mem_append.2
    ⟨inOrder.inside, List.forall_mem_singleton.2 ⟨below, draws.forward, draws.inside⟩⟩
  stops := List.forall_mem_append.2 ⟨inOrder.stops, List.forall_mem_singleton.2 draws.stops⟩
  follows := by
    refine List.isChain_append.2 ⟨inOrder.follows, .singleton _, ?_⟩
    rintro dash isLast _ ⟨⟩
    exact next dash isLast
  apart := by
    refine List.pairwise_append.2 ⟨inOrder.apart, List.pairwise_singleton _ _, ?_⟩
    rintro dash member _ (_ | ⟨_, ⟨⟩⟩)
    exact behind dash member
  last := by
    refine List.pairwise_append.2 ⟨inOrder.last, List.pairwise_singleton _ _, ?_⟩
    exact fun dash member _ _ => unended dash member

theorem start_invariant (loop : Loop) : loop.Invariant ⟨0, []⟩ where
  extent := ⟨0, Binary64.zero_isExtent⟩
  start := fun _ => rfl
  next := nofun
  behind := nofun
  unended := fun _ => nofun
  inOrder := ⟨nofun, nofun, nofun, .nil, .nil, .nil⟩

section Run

variable {progress : Progress} (limitExtent : loop.limit.IsExtent limit)
  (dashExtent : loop.dash.IsExtent dash) (gapExtent : loop.gap.IsExtent gap)
include limitExtent dashExtent gapExtent

theorem Invariant.advance (invariant : loop.Invariant progress) :
    loop.Invariant (loop.advance progress) := by
  by_cases below : progress.position.lt loop.limit = true
  · obtain ⟨units, extent⟩ := invariant.extent
    have draws := pass_draws limitExtent dashExtent gapExtent extent below
    rw [Loop.advance, if_pos below]
    refine ⟨draws.extent, by simp, by simp [pass, stop], ?_, fun unended => ?_, ?_⟩
    · refine List.forall_mem_append.2
        ⟨fun dash member => ?_, List.forall_mem_singleton.2 draws.behind⟩
      exact Binary64.le_trans (Binary64.le_trans (invariant.behind dash member) draws.forward)
        draws.behind
    · exact List.forall_mem_append.2
        ⟨invariant.unended below, List.forall_mem_singleton.2 (draws.unended unended)⟩
    · exact invariant.inOrder.append invariant.start invariant.next invariant.behind
        (invariant.unended below) below draws
  · rw [Loop.advance, if_neg below]
    exact invariant

theorem progress_invariant (passes : Nat) : loop.Invariant (loop.progress passes) := by
  induction passes with
  | zero => exact start_invariant loop
  | succ passes inductionHypothesis =>
    rw [progress, Function.iterate_succ_apply']
    exact inductionHypothesis.advance limitExtent dashExtent gapExtent

end Run

theorem intervals_done (done : ¬position.lt loop.limit = true) :
    loop.intervals? position = some [] := by
  rw [intervals?, Dash.intervals?, if_neg done]

/-- The passes of a loop that ends draw the dashes of its line one after another. -/
theorem drawn_divided {dashes : List (Binary64 × Binary64)}
    (divided : loop.intervals? position = some dashes) (early : List (Binary64 × Binary64))
    (passes : Nat) :
    ((loop.advance)^[passes] ⟨position, early⟩).drawn = early ++ dashes.take passes := by
  induction passes generalizing position early dashes with
  | zero => simp
  | succ passes inductionHypothesis =>
    rw [Function.iterate_succ_apply]
    by_cases below : position.lt loop.limit = true
    · rw [intervals_pass below] at divided
      rw [advance, if_pos below]
      split_ifs at divided with inside advances
      · obtain ⟨rest, later, rfl⟩ := Option.map_eq_some_iff.1 divided
        rw [inductionHypothesis later, List.append_assoc]
        rfl
      · cases divided
        rw [inductionHypothesis (intervals_done inside), List.append_assoc]
        rfl
    · cases (intervals_done below).symm.trans divided
      rw [advance, if_neg below, inductionHypothesis divided, List.take_nil, List.take_nil]

/-- Every pass of a loop that does not end draws a dash, also where it has come to a stand. -/
theorem drawn_endless (limitExtent : loop.limit.IsExtent limit)
    (dashExtent : loop.dash.IsExtent dash) (gapExtent : loop.gap.IsExtent gap) (positive : 0 < dash)
    (extent : position.IsExtent units) (endless : loop.intervals? position = none)
    (early : List (Binary64 × Binary64)) (passes : Nat) :
    ((loop.advance)^[passes] ⟨position, early⟩).drawn.length = early.length + passes := by
  induction passes generalizing position units early with
  | zero => rfl
  | succ passes inductionHypothesis =>
    have below : position.lt loop.limit = true := by
      by_contra done
      cases (intervals_done done).symm.trans endless
    have later : loop.intervals? (loop.pass position) = none := by
      rw [intervals_pass below] at endless
      split_ifs at endless with inside advances
      · exact Option.map_eq_none_iff.1 endless
      · rw [pass_stuck limitExtent dashExtent gapExtent extent positive inside advances,
          intervals_pass below, if_pos inside, if_neg advances]
    obtain ⟨next, nextExtent⟩ := (pass_draws limitExtent dashExtent gapExtent extent below).extent
    rw [Function.iterate_succ_apply, advance, if_pos below, inductionHypothesis nextExtent later,
      List.length_append, List.length_singleton, Nat.add_assoc, Nat.add_comm 1]

/-- Whatever is lost when the ends of dashes are rounded, the dashes stay in order, after any number
of passes. They are those of the line, as long as there are some left, or they never come to an
end. -/
theorem progress_inOrder {loop : Loop} (limitPositive : loop.limit.IsLength)
    (dashPositive : loop.dash.IsLength) (gapPositive : loop.gap.IsLength) (passes : Nat) :
    loop.InOrder (loop.progress passes).drawn ∧
      match Dash.intervals? loop.limit loop.dash loop.gap 0 with
      | some dashes => (loop.progress passes).drawn = dashes.take passes
      | none => (loop.progress passes).drawn.length = passes := by
  obtain ⟨limit, -, limitExtent⟩ := limitPositive.isExtent
  obtain ⟨dash, positive, dashExtent⟩ := dashPositive.isExtent
  obtain ⟨gap, -, gapExtent⟩ := gapPositive.isExtent
  refine ⟨(progress_invariant limitExtent dashExtent gapExtent passes).inOrder, ?_⟩
  cases divided : Dash.intervals? loop.limit loop.dash loop.gap 0 with
  | some dashes => exact drawn_divided divided [] passes
  | none =>
    have endless := drawn_endless limitExtent dashExtent gapExtent positive Binary64.zero_isExtent
      divided [] passes
    rwa [List.length_nil, Nat.zero_add] at endless

/-- Dashes of one with gaps of `2 ^ 53` have no length from the second one on. -/
theorem progress_inOrder_rounded :
    let far : Binary64 := .ofNat (2 ^ 53)
    let loop : Loop := ⟨.ofNat (2 ^ 54), 1, far⟩
    loop.limit.IsLength ∧ loop.dash.IsLength ∧ loop.gap.IsLength ∧
      loop.InOrder [(0, 1), (far, far)] := by
  intro far loop
  have limit : loop.limit.IsLength := by decide +kernel
  have dash : loop.dash.IsLength := by decide +kernel
  have gap : loop.gap.IsLength := by decide +kernel
  have drawn : (loop.progress 3).drawn = [(0, 1), (far, far)] := by decide +kernel
  exact ⟨limit, dash, gap, drawn ▸ (progress_inOrder limit dash gap 3).1⟩

end Dash.Loop

end QuadrantChart
