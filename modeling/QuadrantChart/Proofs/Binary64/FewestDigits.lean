/-
This file proves that no decimal with fewer digits than the shortest one reads back to a number.
-/

import Mathlib.Algebra.Order.Field.Power
import Mathlib.Data.Rat.Cast.Order
import Mathlib.Tactic.FieldSimp
import Mathlib.Tactic.Positivity
import Mathlib.Tactic.Ring
import QuadrantChart.Proofs.Binary64.Nearest
import QuadrantChart.Proofs.Binary64.Shortest
import QuadrantChart.Proofs.Text.Digits

namespace QuadrantChart

namespace Decimal

/-- The exact value of a decimal. -/
def value (decimal : Decimal) : ℚ :=
  decimal.digits * 10 ^ decimal.exponent

/-- How many digits a decimal has, the first of which is not zero. -/
def length (decimal : Decimal) : Nat :=
  (Text.ofNat decimal.digits).length

theorem ten_zpow (exponent : Int) :
    (10 : ℚ) ^ exponent = (10 ^ exponent.toNat : Nat) / (10 ^ (-exponent).toNat : Nat) := by
  rcases Int.le_total 0 exponent with whole | part
  · obtain ⟨places, rfl⟩ := Int.eq_ofNat_of_zero_le whole
    simp
  · obtain ⟨places, same⟩ := Int.exists_eq_neg_ofNat part
    subst same
    simp

theorem value_eq (decimal : Decimal) :
    decimal.value = (decimal.digits * 10 ^ decimal.exponent.toNat : Nat) /
      (10 ^ (-decimal.exponent).toNat : Nat) := by
  rw [value, ten_zpow, Nat.cast_mul, mul_div_assoc]

theorem value_mono {digits others : Nat} (exponent : Int) (order : digits ≤ others) :
    value ⟨digits, exponent⟩ ≤ value ⟨others, exponent⟩ :=
  mul_le_mul_of_nonneg_right (Nat.cast_le.2 order) (zpow_nonneg (by norm_num) exponent)

theorem value_one (exponent : Int) : value ⟨1, exponent⟩ = 10 ^ exponent := by
  simp [value]

end Decimal

namespace Binary64

/-- The value of a count of units. -/
def magnitude (units : Nat) : ℚ :=
  units / unitsPerOne

/-- A multiple of a power of ten is compared with a magnitude in whole numbers. -/
theorem value_le_magnitude {digits units : Nat} {exponent : Int} :
    Decimal.value ⟨digits, exponent⟩ ≤ magnitude units ↔
      digits * (unitsPerOne * 10 ^ exponent.toNat) ≤ units * 10 ^ (-exponent).toNat := by
  have one : (0 : ℚ) < unitsPerOne := Nat.cast_pos.2 unitsPerOne_positive
  have places : (0 : ℚ) < (10 ^ (-exponent).toNat : Nat) := Nat.cast_pos.2 (ten_pow_positive _)
  rw [Decimal.value_eq, magnitude, div_le_div_iff₀ places one, ← Nat.cast_mul, ← Nat.cast_mul,
    Nat.cast_le, Nat.mul_assoc, Nat.mul_comm unitsPerOne]

/-- Greater decimals are not rounded to smaller magnitudes. -/
theorem decimalUnits_mono {left right : Decimal} (order : left.value ≤ right.value) :
    decimalUnits left ≤ decimalUnits right := by
  have places (exponent : Int) : (0 : ℚ) < (10 ^ exponent.toNat : Nat) :=
    Nat.cast_pos.2 (ten_pow_positive _)
  rw [Decimal.value_eq, Decimal.value_eq, div_le_div_iff₀ (places _) (places _), ← Nat.cast_mul,
    ← Nat.cast_mul, Nat.cast_le] at order
  rw [decimalUnits_eq, decimalUnits_eq]
  refine roundedQuotient_order (ten_pow_positive _) (ten_pow_positive _) ?_
  rw [Nat.mul_right_comm _ unitsPerOne, Nat.mul_right_comm _ unitsPerOne]
  exact Nat.mul_le_mul_right _ order

variable {units : Nat} {exponent : Int}

/-- The decimal that is exactly a magnitude. -/
theorem exact_exists (representable : Representable units) :
    ∃ exact : Decimal, exact.value = magnitude units ∧ decimalUnits exact = units := by
  obtain ⟨places, -, power⟩ := unitsPerOne_eq
  refine ⟨⟨units * 5 ^ places, -places⟩, ?_, decimalUnits_exactPlaces _ _ representable power⟩
  have ten : (10 : ℚ) ^ places = 5 ^ places * 2 ^ places := by
    rw [← mul_pow]
    norm_num
  rw [Decimal.value, magnitude, power, zpow_neg, zpow_natCast, ten]
  push_cast
  field_simp

/-- Between a decimal that reads as a magnitude and the magnitude, every decimal reads so. -/
theorem reads_below (representable : Representable units) {outer inner : Decimal}
    (reads : decimalUnits outer = units) (order : outer.value ≤ inner.value)
    (below : inner.value ≤ magnitude units) : decimalUnits inner = units := by
  obtain ⟨exact, value, exactReads⟩ := exact_exists representable
  rw [← value] at below
  exact Nat.le_antisymm (exactReads ▸ decimalUnits_mono below) (reads ▸ decimalUnits_mono order)

theorem reads_above (representable : Representable units) {outer inner : Decimal}
    (reads : decimalUnits outer = units) (above : magnitude units ≤ inner.value)
    (order : inner.value ≤ outer.value) : decimalUnits inner = units := by
  obtain ⟨exact, value, exactReads⟩ := exact_exists representable
  rw [← value] at above
  exact Nat.le_antisymm (reads ▸ decimalUnits_mono order) (exactReads ▸ decimalUnits_mono above)

/-- The number of whole steps of a grid below a magnitude. -/
def gridFloor (units : Nat) (exponent : Int) : Nat :=
  units * 10 ^ (-exponent).toNat / (unitsPerOne * 10 ^ exponent.toNat)

theorem gridFloor_le (units : Nat) (exponent : Int) :
    Decimal.value ⟨gridFloor units exponent, exponent⟩ ≤ magnitude units :=
  value_le_magnitude.2 (Nat.div_mul_le_self _ _)

theorem lt_gridFloor (units : Nat) (exponent : Int) :
    magnitude units < Decimal.value ⟨gridFloor units exponent + 1, exponent⟩ := by
  rw [← not_le, value_le_magnitude, Nat.not_le]
  rw [gridFloor, Nat.mul_comm (_ / _ + 1)]
  exact Nat.lt_mul_div_succ _ (Nat.mul_pos unitsPerOne_positive (ten_pow_positive _))

/-- A grid that has a decimal for a magnitude has one next to the magnitude. -/
theorem onGrid_isSome (representable : Representable units) {digits : Nat}
    (reads : decimalUnits ⟨digits, exponent⟩ = units) :
    (decimalOnGrid? units exponent).isSome = true := by
  have neighbour : decimalUnits ⟨gridFloor units exponent, exponent⟩ = units ∨
      decimalUnits ⟨gridFloor units exponent + 1, exponent⟩ = units := by
    rcases Nat.lt_or_ge (gridFloor units exponent) digits with more | fewer
    · exact .inr (reads_above representable reads (lt_gridFloor units exponent).le
        (Decimal.value_mono exponent more))
    · exact .inl (reads_below representable reads (Decimal.value_mono exponent fewer)
        (gridFloor_le units exponent))
  simp only [decimalOnGrid?]
  split_ifs with nearest below above
  · rfl
  · rfl
  · rfl
  · exact (neighbour.elim below above).elim

/-- The decimal of a grid has no more digits than the grid leaves to the magnitude. -/
theorem onGrid_digits {decimal : Decimal} {places : Nat}
    (found : decimalOnGrid? units exponent = some decimal)
    (bound : magnitude units < 10 ^ (exponent + places)) :
    decimal.exponent = exponent ∧ decimal.digits ≤ 10 ^ places := by
  have floor : gridFloor units exponent < 10 ^ places := by
    have step : (0 : ℚ) < 10 ^ exponent := zpow_pos (by norm_num) exponent
    have below := (gridFloor_le units exponent).trans_lt bound
    rw [Decimal.value, zpow_add₀ (by norm_num), mul_comm ((10 : ℚ) ^ exponent),
      mul_lt_mul_iff_of_pos_right step, zpow_natCast] at below
    exact_mod_cast below
  have near := nearestEven_le (units * 10 ^ (-exponent).toNat)
    (unitsPerOne * 10 ^ exponent.toNat)
  change _ ≤ gridFloor units exponent + 1 at near
  simp only [decimalOnGrid?] at found
  split_ifs at found
  · cases found
    exact ⟨rfl, Nat.le_trans near floor⟩
  · cases found
    exact ⟨rfl, Nat.le_of_lt floor⟩
  · cases found
    exact ⟨rfl, floor⟩

/-- The ceiling of the magnitudes with so many bits behind the first one. -/
def bitCeiling (bits : Nat) : Int :=
  ((bits : Int) - 1074) * 30103 / 100000 + 2

/-- A ceiling is above all magnitudes of so many bits, and at most a hundred times the least one. -/
def FitsCeiling (bits : Nat) (ceiling : Int) : Prop :=
  1 * (unitsPerOne * 10 ^ (ceiling - 2).toNat) ≤ 2 ^ bits * 10 ^ (-(ceiling - 2)).toNat ∧
    2 ^ (bits + 1) * 10 ^ (-ceiling).toNat ≤ 1 * (unitsPerOne * 10 ^ ceiling.toNat)

instance (bits : Nat) (ceiling : Int) : Decidable (FitsCeiling bits ceiling) :=
  inferInstanceAs (Decidable (_ ∧ _))

/-- The decimal logarithm of two is close enough to 0.30103 for all powers of two that are below
the overflow. -/
theorem ceilings_fit : ∀ bits ∈ List.range 2098, FitsCeiling bits (bitCeiling bits) := by
  decide +kernel

/-- A magnitude lies below its ceiling, and not below a hundredth of it. -/
theorem ceiling_bounds (representable : Representable units) (nonzero : units ≠ 0) :
    (10 : ℚ) ^ (decimalCeiling units - 2) ≤ magnitude units ∧
      magnitude units < 10 ^ decimalCeiling units := by
  obtain ⟨places, exponent, power⟩ := overflowUnits_eq
  have short : units.log2 < 2098 := by
    rw [Nat.log2_lt nonzero, ← exponent, ← power]
    exact representable.1
  have fits := ceilings_fit units.log2 (List.mem_range.2 short)
  change FitsCeiling units.log2 (decimalCeiling units) at fits
  obtain ⟨lower, upper⟩ := fits
  have least : 2 ^ units.log2 ≤ units := Nat.log2_self_le nonzero
  have greatest : units < 2 ^ (units.log2 + 1) := Nat.lt_log2_self
  constructor
  · rw [← Decimal.value_one, value_le_magnitude]
    exact Nat.le_trans lower (Nat.mul_le_mul_right _ least)
  · rw [← not_le, ← Decimal.value_one, value_le_magnitude, Nat.not_le]
    exact Nat.lt_of_lt_of_le (Nat.mul_lt_mul_of_pos_right greatest (ten_pow_positive _)) upper

/-- The number of digits that a magnitude has before its decimal point, which can be negative. -/
theorem leading_exists (representable : Representable units) (nonzero : units ≠ 0) :
    ∃ leading : Int, (leading = decimalCeiling units - 1 ∨ leading = decimalCeiling units) ∧
      10 ^ (leading - 1) ≤ magnitude units ∧ magnitude units < 10 ^ leading := by
  obtain ⟨lower, upper⟩ := ceiling_bounds representable nonzero
  rcases lt_or_ge (magnitude units) (10 ^ (decimalCeiling units - 1)) with below | above
  · refine ⟨_, .inl rfl, ?_, below⟩
    rwa [Int.sub_sub]
  · exact ⟨_, .inr rfl, above, upper⟩

/-- Seventeen digits are enough for every magnitude. -/
theorem seventeen_digits (representable : Representable units) (nonzero : units ≠ 0)
    {leading : Int} (least : 10 ^ (leading - 1) ≤ magnitude units) :
    ∃ digits, decimalUnits ⟨digits, leading - 17⟩ = units := by
  have digits : Decimal.value ⟨10 ^ 16, leading - 17⟩ ≤ magnitude units := by
    refine le_trans (le_of_eq ?_) least
    have sixteen : leading - 1 = (16 : Nat) + (leading - 17) := by omega
    rw [Decimal.value, Nat.cast_pow, Nat.cast_ofNat, sixteen, zpow_add₀ (by norm_num),
      zpow_natCast]
  generalize leading - 17 = exponent at *
  rw [value_le_magnitude] at digits
  have positive := Nat.mul_pos unitsPerOne_positive (ten_pow_positive exponent.toNat)
  obtain ⟨upper, lower⟩ := nearestEven_close (units * 10 ^ (-exponent).toNat) positive
  refine ⟨nearestEven (units * 10 ^ (-exponent).toNat) (unitsPerOne * 10 ^ exponent.toNat), ?_⟩
  rw [decimalUnits_eq, Nat.mul_assoc, Nat.mul_comm _ unitsPerOne]
  exact roundedQuotient_fine (ten_pow_positive _) nonzero representable.2 digits upper lower

theorem decimalUnits_value {left right : Decimal} (same : left.value = right.value) :
    decimalUnits left = decimalUnits right :=
  Nat.le_antisymm (decimalUnits_mono same.le) (decimalUnits_mono same.ge)

/-- Where a decimal of so many digits reads as a magnitude, the grid that leaves as many digits to
the magnitude has a decimal that does. -/
theorem grid_exists (representable : Representable units) {leading : Int} {places : Nat}
    (least : 10 ^ (leading - 1) ≤ magnitude units) {decimal : Decimal}
    (reads : decimalUnits decimal = units) (short : decimal.digits < 10 ^ (places + 1)) :
    ∃ digits, decimalUnits ⟨digits, leading - (places + 1)⟩ = units := by
  rcases lt_or_ge decimal.exponent (leading - (places + 1)) with finer | coarser
  · -- The decimal is below the power of ten that is at most the magnitude.
    refine ⟨10 ^ places, ?_⟩
    have power : Decimal.value ⟨10 ^ places, leading - (places + 1)⟩ = 10 ^ (leading - 1) := by
      have exponent : leading - 1 = places + (leading - (places + 1)) := by omega
      rw [Decimal.value, Nat.cast_pow, Nat.cast_ofNat, exponent, zpow_add₀ (by norm_num),
        zpow_natCast]
    refine reads_below representable reads ?_ (power.le.trans least)
    have digits : (decimal.digits : ℚ) ≤ 10 ^ (places + 1) := by
      exact_mod_cast Nat.le_of_lt short
    calc
      decimal.value ≤ 10 ^ (places + 1) * 10 ^ decimal.exponent :=
        mul_le_mul_of_nonneg_right digits (zpow_nonneg (by norm_num) _)
      _ = 10 ^ (((places + 1 : Nat) : Int) + decimal.exponent) := by
        rw [zpow_add₀ (by norm_num), zpow_natCast]
      _ ≤ 10 ^ (leading - 1) := zpow_le_zpow_right₀ (by norm_num) (by omega)
      _ = _ := power.symm
  · obtain ⟨zeros, above⟩ := Int.exists_add_of_le coarser
    refine ⟨decimal.digits * 10 ^ zeros, (decimalUnits_value ?_).trans reads⟩
    rw [Decimal.value, Decimal.value, above, zpow_add₀ (by norm_num), zpow_natCast]
    push_cast
    ring

/-- The search stops at the first grid that has a decimal. -/
theorem shortestDecimal_search {index : Nat} (inside : index < 18)
    (onGrid : (decimalOnGrid? units (decimalCeiling units - index - 1)).isSome = true) :
    ∃ first ≤ index, ∃ decimal,
      decimalOnGrid? units (decimalCeiling units - (first : Nat) - 1) = some decimal ∧
        shortestDecimal units = stripZeros decimal.digits decimal.exponent := by
  have member : index ∈ List.range 18 := List.mem_range.2 inside
  cases found : (List.range 18).findSome? fun (index : Nat) =>
      decimalOnGrid? units (decimalCeiling units - index - 1) with
  | none =>
    rw [List.findSome?_eq_none_iff.1 found index member] at onGrid
    cases onGrid
  | some decimal =>
    have result : shortestDecimal units = stripZeros decimal.digits decimal.exponent := by
      simp only [shortestDecimal, found, Option.getD_some]
    obtain ⟨before, first, after, indices, here, none⟩ := List.findSome?_eq_some_iff.1 found
    refine ⟨first, ?_, decimal, here, result⟩
    have increasing := indices ▸ List.pairwise_lt_range (n := 18)
    rw [indices] at member
    rcases List.mem_append.1 member with earlier | later
    · rw [none index earlier] at onGrid
      cases onGrid
    · rcases List.mem_cons.1 later with same | behind
      · exact Nat.le_of_eq same.symm
      · obtain ⟨-, ascending, -⟩ := List.pairwise_append.1 increasing
        exact Nat.le_of_lt (List.rel_of_pairwise_cons ascending behind)

/-- Stripped digits do not end in a zero, so they are below the power of ten that bounds them. -/
theorem stripZeros_lt {digits places : Nat} (exponent : Int) (bound : digits ≤ 10 ^ (places + 1)) :
    (stripZeros digits exponent).digits < 10 ^ (places + 1) := by
  fun_induction stripZeros digits exponent with
  | case1 digits exponent zeros inductionHypothesis => exact inductionHypothesis (by omega)
  | case2 digits exponent last =>
    rw [Nat.pow_succ] at bound ⊢
    have positive := ten_pow_positive places
    dsimp only
    omega

/-- Where a grid of few digits has a decimal for the magnitude, the shortest one is as short. -/
theorem shortestDecimal_short (representable : Representable units) {leading : Int}
    (ceiling : leading = decimalCeiling units - 1 ∨ leading = decimalCeiling units)
    (bound : magnitude units < 10 ^ leading) {places digits : Nat} (few : places ≤ 16)
    (reads : decimalUnits ⟨digits, leading - (places + 1)⟩ = units) :
    (shortestDecimal units).length ≤ places + 1 := by
  obtain ⟨index, inside, grid⟩ : ∃ index : Nat, index < 18 ∧
      leading - (places + 1) = decimalCeiling units - index - 1 :=
    ⟨(decimalCeiling units - leading + places).toNat, by omega, by omega⟩
  rw [grid] at reads
  obtain ⟨first, order, found, here, result⟩ :=
    shortestDecimal_search inside (onGrid_isSome representable reads)
  obtain ⟨room, exponent⟩ : ∃ room : Nat, leading = decimalCeiling units - first - 1 + room :=
    ⟨(leading - (decimalCeiling units - first - 1)).toNat, by omega⟩
  obtain ⟨-, small⟩ := onGrid_digits here (exponent ▸ bound)
  have enlarged : found.digits ≤ 10 ^ (places + 1) :=
    Nat.le_trans small (Nat.pow_le_pow_right (by decide) (by omega))
  rw [result, Decimal.length]
  exact Text.ofNat_length (stripZeros_lt _ enlarged)

theorem shortestDecimal_length (representable : Representable units) (nonzero : units ≠ 0) :
    (shortestDecimal units).length ≤ 17 := by
  obtain ⟨leading, ceiling, least, bound⟩ := leading_exists representable nonzero
  obtain ⟨digits, reads⟩ := seventeen_digits representable nonzero least
  exact shortestDecimal_short representable ceiling bound (Nat.le_refl 16) reads

/-- No decimal that reads back to a magnitude has fewer digits than the shortest one. -/
theorem shortestDecimal_fewest (representable : Representable units) (nonzero : units ≠ 0)
    {decimal : Decimal} (reads : decimalUnits decimal = units) :
    (shortestDecimal units).length ≤ decimal.length := by
  obtain ⟨leading, ceiling, least, bound⟩ := leading_exists representable nonzero
  have digits : decimal.digits < 10 ^ decimal.length := Text.lt_ten_pow_length decimal.digits
  have positive : 0 < decimal.length := List.length_pos_iff.2 (Text.ofNat_nonempty _)
  obtain ⟨places, count⟩ : ∃ places, decimal.length = places + 1 := ⟨decimal.length - 1, by omega⟩
  rw [count] at digits ⊢
  rcases Nat.le_total places 16 with short | long
  · obtain ⟨onGrid, gridReads⟩ := grid_exists representable least reads digits
    exact shortestDecimal_short representable ceiling bound short gridReads
  · exact Nat.le_trans (shortestDecimal_length representable nonzero) (by omega)

/-- A decimal without places reads as an integral magnitude. -/
theorem decimalUnits_whole {decimal : Decimal} (whole : 0 ≤ decimal.exponent) :
    unitsPerOne ∣ decimalUnits decimal := by
  obtain ⟨places, -, power⟩ := unitsPerOne_eq
  have none : (-decimal.exponent).toNat = 0 := by omega
  rw [decimalUnits_eq, none, Nat.pow_zero, power]
  generalize decimal.digits * 10 ^ decimal.exponent.toNat = value
  rcases Nat.le_total places ((value * 2 ^ places / 1).log2 - 52) with coarse | fine
  · exact Nat.dvd_trans (Nat.pow_dvd_pow 2 coarse) (Nat.dvd_mul_left _ _)
  · have small : value ≤ 2 ^ 53 := by
      have bounded : value * 2 ^ places < 2 ^ (places + 53) := by
        refine Nat.lt_of_lt_of_le Nat.lt_log2_self (Nat.pow_le_pow_right (by decide) ?_)
        rw [Nat.div_one] at fine
        omega
      rw [Nat.add_comm, Nat.pow_add] at bounded
      exact Nat.le_of_lt (Nat.lt_of_mul_lt_mul_right bounded)
    have exact := roundedQuotient_exact _ 1 (by decide) (scaled_dvd value places small)
    rw [Nat.mul_one] at exact
    change 2 ^ places ∣ roundedQuotient (value * Nat.pow 2 places) 1
    rw [exact]
    exact Nat.dvd_mul_left _ _

/-- A decimal that is read as a magnitude is nearest to it. -/
theorem ofDecimal_units {negative other : Bool} {decimal : Decimal} (nonzero : units ≠ 0)
    {representable : Representable units}
    (reads : ofDecimal negative decimal = .finite other units representable) :
    decimalUnits decimal = units := by
  have nothing : ofUnits negative 0 1 ≠ .finite other units representable := by
    have none : Representable 0 := ⟨by decide +kernel, by decide⟩
    rw [ofUnits_eq negative 0 1 0 none (roundedQuotient_small 0 1 (by decide))]
    intro same
    cases same
    exact nonzero rfl
  rw [ofDecimal] at reads
  split_ifs at reads with zero large small
  · exact absurd reads nothing
  · exact absurd reads nothing
  · unfold ofUnits at reads
    split_ifs at reads
    cases reads
    rfl

end Binary64

end QuadrantChart
