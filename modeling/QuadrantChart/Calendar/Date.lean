/-
This file numbers the days of the Gregorian calendar from the first day of year one.
-/

namespace QuadrantChart

structure Date where
  year : Nat
  month : Nat
  day : Nat
  deriving DecidableEq, Repr

namespace Date

def isLeap (year : Nat) : Bool :=
  year % 4 = 0 && (year % 100 != 0 || year % 400 = 0)

/-- The lengths of the months of a year. -/
def monthLengths (year : Nat) : List Nat :=
  [31, if isLeap year then 29 else 28, 31, 30, 31, 30, 31, 31, 30, 31, 30, 31]

def monthLength (year month : Nat) : Nat :=
  (monthLengths year).getD (month - 1) 0

/-- The years from one to 9999 are those of the calendar. -/
def Valid (date : Date) : Prop :=
  1 ≤ date.year ∧ date.year ≤ 9999 ∧ 1 ≤ date.month ∧ date.month ≤ 12 ∧
    1 ≤ date.day ∧ date.day ≤ monthLength date.year date.month

instance (date : Date) : Decidable date.Valid :=
  inferInstanceAs (Decidable (_ ∧ _))

/-- The days of so many whole years from year one on. -/
def daysOfYears (years : Nat) : Nat :=
  years * 365 + years / 4 - years / 100 + years / 400

/-- The number of a day, where the first day of year one is zero. -/
def dayNumber (date : Date) : Nat :=
  daysOfYears (date.year - 1) + ((monthLengths date.year).take (date.month - 1)).foldl (· + ·) 0 +
    (date.day - 1)

/-- The month and the day of a day within the months from a given one on. -/
def ofMonths (month : Nat) : List Nat → (day : Nat) → Nat × Nat
  | [], day => (month, day + 1)
  | length :: lengths, day =>
    if day < length then (month, day + 1) else ofMonths (month + 1) lengths (day - length)

/-- The date of a day number. Whole cycles of 400, 100, 4 and one years are taken off in turn. -/
def ofDayNumber (number : Nat) : Date :=
  let inCycle := number % 146097
  let centuries := min 3 (inCycle / 36524)
  let inCentury := inCycle - centuries * 36524
  let inLeapCycle := inCentury % 1461
  let years := min 3 (inLeapCycle / 365)
  let year := number / 146097 * 400 + centuries * 100 + inCentury / 1461 * 4 + years + 1
  let (month, day) := ofMonths 1 (monthLengths year) (inLeapCycle - years * 365)
  ⟨year, month, day⟩

end Date

end QuadrantChart
