/-
This file proves that days are numbered in the order of the calendar, and that the date of a number
is found again.
-/

import Mathlib.Algebra.BigOperators.Group.List.Basic
import Mathlib.Algebra.GroupWithZero.Nat
import Mathlib.Data.List.GetD
import Mathlib.Tactic.SplitIfs
import QuadrantChart.Calendar.Moment

namespace QuadrantChart

namespace Date

/-- The days of a year, counted month by month. -/
def yearLength (year : Nat) : Nat :=
  (monthLengths year).sum

/-- The days before a date, counted year by year and month by month from the first day of year
one on. -/
def daysBefore (date : Date) : Nat :=
  ((List.range (date.year - 1)).map fun year => yearLength (year + 1)).sum +
    ((monthLengths date.year).take (date.month - 1)).sum + (date.day - 1)

theorem yearLength_eq (year : Nat) : yearLength year = if isLeap year then 366 else 365 := by
  unfold yearLength monthLengths
  split <;> rfl

theorem isLeap_iff {year : Nat} :
    isLeap year = true ↔ year % 4 = 0 ∧ (year % 100 ≠ 0 ∨ year % 400 = 0) := by
  simp [isLeap]

theorem daysOfYears_succ (years : Nat) :
    daysOfYears (years + 1) = daysOfYears years + yearLength (years + 1) := by
  have order : years / 100 ≤ years / 4 := Nat.div_le_div_left (by decide) (by decide)
  -- Each of the three quotients grows by one with the multiples of its divisor.
  have quotient (divisor : Nat) : (years + 1) / divisor =
      years / divisor + if (years + 1) % divisor = 0 then 1 else 0 := by
    simp only [Nat.succ_div, Nat.dvd_iff_mod_eq_zero]
  rw [daysOfYears, daysOfYears, yearLength_eq, quotient, quotient, quotient]
  generalize years / 4 = fourths at *
  generalize years / 100 = hundredths at *
  simp only [isLeap_iff]
  split_ifs <;> omega

theorem daysOfYears_mono {first second : Nat} (order : first ≤ second) :
    daysOfYears first ≤ daysOfYears second := by
  induction order with
  | refl => exact Nat.le_refl _
  | step _ inductionHypothesis =>
    rw [daysOfYears_succ]
    exact Nat.le_add_right_of_le inductionHypothesis

/-- The rule of leap years counts the days of all years before. -/
theorem daysOfYears_eq (years : Nat) :
    daysOfYears years = ((List.range years).map fun year => yearLength (year + 1)).sum := by
  induction years with
  | zero => rfl
  | succ years inductionHypothesis =>
    rw [daysOfYears_succ, List.range_succ, List.map_append, List.sum_append, inductionHypothesis]
    rfl

theorem dayNumber_eq (date : Date) : date.dayNumber = date.daysBefore := by
  rw [dayNumber, daysBefore, daysOfYears_eq, ← List.sum_eq_foldl]

/-- A day within the months has a place in one of them. -/
theorem ofMonths_eq {lengths : List Nat} {index rest : Nat} (month : Nat)
    (inside : rest < lengths.getD index 0) :
    ofMonths month lengths ((lengths.take index).sum + rest) = (month + index, rest + 1) := by
  induction index generalizing month lengths with
  | zero =>
    cases lengths with
    | nil => cases inside
    | cons length lengths =>
      have here : rest < length := inside
      rw [List.take_zero, List.sum_nil, Nat.zero_add, ofMonths, if_pos here]
      rfl
  | succ index inductionHypothesis =>
    cases lengths with
    | nil => cases inside
    | cons length lengths =>
      have later := inductionHypothesis (month + 1) inside
      rw [List.take_succ_cons, List.sum_cons, ofMonths, if_neg (by omega), Nat.add_assoc,
        Nat.add_sub_cancel_left, later, Nat.add_assoc, Nat.add_comm 1]

/-- Every day within the months has such a place. -/
theorem place_exists {lengths : List Nat} {day : Nat} (inside : day < lengths.sum) :
    ∃ index rest, rest < lengths.getD index 0 ∧ day = (lengths.take index).sum + rest := by
  induction lengths generalizing day with
  | nil => cases inside
  | cons length lengths inductionHypothesis =>
    rcases Nat.lt_or_ge day length with here | later
    · exact ⟨0, day, here, (Nat.zero_add day).symm⟩
    · have remaining : day - length < lengths.sum := by
        rw [List.sum_cons] at inside
        omega
      obtain ⟨index, rest, place, same⟩ := inductionHypothesis remaining
      refine ⟨index + 1, rest, place, ?_⟩
      rw [List.take_succ_cons, List.sum_cons]
      omega

/-- The year of a day number leaves a day within the year. -/
theorem ofDayNumber_year (number : Nat) :
    ∃ years day, ofDayNumber number = ⟨years + 1,
        (ofMonths 1 (monthLengths (years + 1)) day).1,
        (ofMonths 1 (monthLengths (years + 1)) day).2⟩ ∧
      number = daysOfYears years + day ∧ day < yearLength (years + 1) := by
  refine ⟨_, _, rfl, ?_⟩
  have within : number % 146097 < 146097 := Nat.mod_lt _ (by decide)
  have cycles := Nat.div_add_mod number 146097
  generalize number / 146097 = cycle at *
  generalize number % 146097 = inCycle at *
  -- Only the last day of 400 years and the last one of four years exceed a whole number of parts.
  obtain ⟨centuries, centuryParts⟩ : ∃ centuries, min 3 (inCycle / 36524) = centuries := ⟨_, rfl⟩
  obtain ⟨inCentury, centuryRest⟩ : ∃ rest, inCycle - centuries * 36524 = rest := ⟨_, rfl⟩
  have leapParts := Nat.div_add_mod inCentury 1461
  obtain ⟨years, yearParts⟩ : ∃ years, min 3 (inCentury % 1461 / 365) = years := ⟨_, rfl⟩
  simp only [centuryParts, centuryRest, yearParts]
  have inLeapCycle : inCentury % 1461 < 1461 := Nat.mod_lt _ (by decide)
  generalize inCentury / 1461 = leapCycles at *
  generalize inCentury % 1461 = rest at *
  have fewCenturies : centuries ≤ 3 := by omega
  have fewLeapCycles : leapCycles ≤ 24 := by omega
  have fewYears : years ≤ 3 := by omega
  have days : daysOfYears (cycle * 400 + centuries * 100 + leapCycles * 4 + years) =
      146097 * cycle + 36524 * centuries + 1461 * leapCycles + 365 * years := by
    have fourths : (cycle * 400 + centuries * 100 + leapCycles * 4 + years) / 4 =
        100 * cycle + 25 * centuries + leapCycles := by omega
    have hundredths : (cycle * 400 + centuries * 100 + leapCycles * 4 + years) / 100 =
        4 * cycle + centuries := by omega
    have cycles : (cycle * 400 + centuries * 100 + leapCycles * 4 + years) / 400 = cycle := by omega
    rw [daysOfYears, fourths, hundredths, cycles]
    omega
  have total : number = 146097 * cycle + 36524 * centuries + 1461 * leapCycles + rest := by omega
  refine ⟨by omega, ?_⟩
  rw [yearLength_eq]
  split_ifs with isLeap
  · omega
  · -- The fourth year of a leap cycle is a common year at the end of a century only.
    have endsCentury : years = 3 → leapCycles = 24 ∧ centuries < 3 := by
      rintro rfl
      have fourth : (cycle * 400 + centuries * 100 + leapCycles * 4 + 3 + 1) % 4 = 0 := by omega
      rw [isLeap_iff, not_and_or, not_or, not_not] at isLeap
      have ends := (isLeap.resolve_left (not_not.2 fourth)).1
      have middle := (isLeap.resolve_left (not_not.2 fourth)).2
      clear isLeap cycles leapParts total days
      omega
    omega

/-- The years before a day and the day within its year are unique. -/
theorem year_unique {first second day other : Nat} (inside : day < yearLength (first + 1))
    (otherInside : other < yearLength (second + 1))
    (same : daysOfYears first + day = daysOfYears second + other) :
    first = second ∧ day = other := by
  have apart {earlier later : Nat} (order : earlier < later) :
      daysOfYears earlier + yearLength (earlier + 1) ≤ daysOfYears later := by
    rw [← daysOfYears_succ]
    exact daysOfYears_mono order
  rcases Nat.lt_trichotomy first second with less | equal | more
  · have := apart less
    omega
  · subst equal
    exact ⟨rfl, by omega⟩
  · have := apart more
    omega

theorem monthLengths_length (year : Nat) : (monthLengths year).length = 12 :=
  rfl

theorem take_sum_lt {lengths : List Nat} {index rest : Nat} (inside : rest < lengths.getD index 0) :
    (lengths.take index).sum + rest < lengths.sum := by
  have present : index < lengths.length := by
    refine Nat.lt_of_not_le fun beyond => ?_
    rw [List.getD_eq_default _ _ beyond] at inside
    cases inside
  rw [List.getD_eq_getElem _ _ present] at inside
  calc
    (lengths.take index).sum + rest < (lengths.take index).sum + lengths[index] := by omega
    _ = (lengths.take (index + 1)).sum := (List.sum_take_succ _ _ present).symm
    _ ≤ lengths.sum := by
      conv_rhs => rw [← List.take_append_drop (index + 1) lengths, List.sum_append]
      exact Nat.le_add_right _ _

theorem monthLength_le (year month : Nat) : monthLength year month ≤ 31 := by
  have every : ∀ length ∈ monthLengths year, length ≤ 31 := by
    unfold monthLengths
    split <;> decide
  rw [monthLength]
  rcases Nat.lt_or_ge (month - 1) (monthLengths year).length with inside | beyond
  · rw [List.getD_eq_getElem _ _ inside]
    exact every _ (List.getElem_mem inside)
  · rw [List.getD_eq_default _ _ beyond]
    decide

/-- A date of the calendar has a place in its year. -/
theorem Valid.place {date : Date} (valid : date.Valid) :
    ∃ years index rest, date = ⟨years + 1, 1 + index, rest + 1⟩ ∧ years < 9999 ∧
      rest < (monthLengths (years + 1)).getD index 0 := by
  obtain ⟨year, month, day⟩ := date
  obtain ⟨first, last, firstMonth, lastMonth, firstDay, lastDay⟩ := valid
  dsimp only at *
  refine ⟨year - 1, month - 1, day - 1, ?_, by omega, ?_⟩
  · congr 1 <;> omega
  · have same : year - 1 + 1 = year := by omega
    rw [monthLength] at lastDay
    rw [same]
    omega

theorem dayNumber_place (years index rest : Nat) :
    dayNumber ⟨years + 1, 1 + index, rest + 1⟩ =
      daysOfYears years + (((monthLengths (years + 1)).take index).sum + rest) := by
  rw [dayNumber, List.sum_eq_foldl, Nat.add_sub_cancel, Nat.add_sub_cancel_left,
    Nat.add_sub_cancel, Nat.add_assoc]

/-- The date of a day number has that number. -/
theorem dayNumber_ofDayNumber (number : Nat) : (ofDayNumber number).dayNumber = number := by
  obtain ⟨years, day, date, same, inside⟩ := ofDayNumber_year number
  obtain ⟨index, rest, place, rfl⟩ := place_exists inside
  rw [date, ofMonths_eq 1 place, dayNumber_place]
  exact same.symm

/-- The days of the years up to 9999 have dates of the calendar. -/
theorem ofDayNumber_valid {number : Nat} (below : number < daysOfYears 9999) :
    (ofDayNumber number).Valid := by
  obtain ⟨years, day, date, same, inside⟩ := ofDayNumber_year number
  obtain ⟨index, rest, place, rfl⟩ := place_exists inside
  have lastYear : years < 9999 := by
    refine Nat.lt_of_not_le fun beyond => ?_
    have := daysOfYears_mono beyond
    omega
  have lastMonth : index < 12 := by
    refine Nat.lt_of_not_le fun beyond => ?_
    rw [List.getD_eq_default _ _ (by rwa [monthLengths_length])] at place
    cases place
  have inMonth : rest < monthLength (years + 1) (1 + index) := by
    rwa [monthLength, Nat.add_sub_cancel_left]
  have inYear : 1 + index ≤ 12 := by omega
  rw [date, ofMonths_eq 1 place]
  exact ⟨Nat.le_add_left 1 years, lastYear, Nat.le_add_right 1 index, inYear,
    Nat.le_add_left 1 rest, inMonth⟩

theorem Valid.dayNumber_lt {date : Date} (valid : date.Valid) :
    date.dayNumber < daysOfYears 9999 := by
  obtain ⟨years, index, rest, rfl, last, place⟩ := valid.place
  rw [dayNumber_place]
  calc
    daysOfYears years + (((monthLengths (years + 1)).take index).sum + rest) <
        daysOfYears years + yearLength (years + 1) := Nat.add_lt_add_left (take_sum_lt place) _
    _ = daysOfYears (years + 1) := (daysOfYears_succ years).symm
    _ ≤ daysOfYears 9999 := daysOfYears_mono last

/-- A date of the calendar is the date of its number. -/
theorem Valid.ofDayNumber {date : Date} (valid : date.Valid) :
    ofDayNumber date.dayNumber = date := by
  obtain ⟨years, index, rest, rfl, -, place⟩ := valid.place
  obtain ⟨sameYears, day, date, same, inside⟩ :=
    ofDayNumber_year (dayNumber ⟨years + 1, 1 + index, rest + 1⟩)
  rw [dayNumber_place] at same
  obtain ⟨rfl, rfl⟩ := year_unique (take_sum_lt place) inside same
  rw [date, ofMonths_eq 1 place]

end Date

end QuadrantChart
