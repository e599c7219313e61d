/-
This file defines moments and writes them as time stamps in universal time.
-/

import QuadrantChart.Calendar.Date
import QuadrantChart.Fault

namespace QuadrantChart

/-- A moment on a clock, which is ahead of universal time by its offset in microseconds. Without an
offset the clock shows universal time. -/
structure Moment where
  date : Date
  hour : Nat
  minute : Nat
  second : Nat
  microsecond : Nat
  offset : Option Int := none
  deriving DecidableEq, Repr

namespace Moment

/-- An offset is shorter than a day. -/
def Valid (moment : Moment) : Prop :=
  moment.date.Valid ∧ moment.hour < 24 ∧ moment.minute < 60 ∧ moment.second < 60 ∧
    moment.microsecond < 1000000 ∧ (moment.offset.getD 0).natAbs < 86400000000

instance (moment : Moment) : Decidable moment.Valid :=
  inferInstanceAs (Decidable (_ ∧ _))

/-- The moment in universal time so many seconds and microseconds after the beginning of year
one. -/
def ofSeconds (seconds microsecond : Nat) : Moment where
  date := .ofDayNumber (seconds / 86400)
  hour := seconds / 3600 % 24
  minute := seconds / 60 % 60
  second := seconds % 60
  microsecond := microsecond

/-- The seconds of the years before 1970. -/
def epoch : Nat :=
  Date.dayNumber ⟨1970, 1, 1⟩ * 86400

/-- The seconds that the clock of a moment has counted since the beginning of year one. -/
def localSeconds (moment : Moment) : Nat :=
  ((moment.date.dayNumber * 24 + moment.hour) * 60 + moment.minute) * 60 + moment.second

/-- The microseconds of universal time since the beginning of year one. -/
def universalTime (moment : Moment) : Int :=
  (moment.localSeconds * 1000000 + moment.microsecond : Nat) - moment.offset.getD 0

/-- The days of the years from one to 9999. -/
def dayLimit : Nat :=
  Date.daysOfYears 9999

/-- The same moment on a clock of universal time, when its year is in the calendar. -/
def toUniversal (moment : Moment) : Except Fault Moment :=
  let time := moment.universalTime
  if time < 0 ∨ (dayLimit * 86400000000 : Nat) ≤ time then .error .dateOutOfRange
  else .ok (ofSeconds (time.toNat / 1000000) (time.toNat % 1000000))

/-- The fields of a moment with its milliseconds, which are rounded down. -/
def text (moment : Moment) : Text :=
  Text.ofNat moment.date.year ++ '-' :: Text.padded 2 moment.date.month ++
    '-' :: Text.padded 2 moment.date.day ++ 'T' :: Text.padded 2 moment.hour ++
    ':' :: Text.padded 2 moment.minute ++ ':' :: Text.padded 2 moment.second ++
    '.' :: Text.padded 3 (moment.microsecond / 1000) ++ ['Z']

/-- The time stamp of a moment. -/
def stamp (moment : Moment) : Except Fault Text := do
  return (← moment.toUniversal).text

end Moment

end QuadrantChart
