/-
This file proves that a time stamp denotes the instant of its moment: it reads back as universal
time in the same millisecond.
-/

import Mathlib.Tactic.NormNum
import QuadrantChart.Proofs.Calendar.DayNumber
import QuadrantChart.Proofs.Result
import QuadrantChart.Proofs.Text.Digits
import QuadrantChart.Proofs.Text.Split

namespace QuadrantChart

namespace Text

/-- A number of a fixed number of digits. -/
def fixedWidth? (width : Nat) (text : Text) : Option Nat :=
  if text.length = width ∧ text.all Char.isDigit then some (Numeral.digitsValue text) else none

/-- A number in decimal digits, without leading zeros. -/
def plainNumber? (text : Text) : Option Nat :=
  if text = ofNat (Numeral.digitsValue text) then some (Numeral.digitsValue text) else none

/-- A number in front of a mark, and what follows the mark. -/
def field? (number : Text → Option Nat) (mark : Char) (text : Text) : Option (Nat × Text) := do
  let (digits, rest) ← splitFirst mark text
  return (← number digits, rest)

theorem field_digits {number : Text → Option Nat} {digits : Text} {value : Nat} {mark : Char}
    (read : number digits = some value) (all : ∀ char ∈ digits, char.isDigit = true)
    (isMark : mark.isDigit = false) (rest : Text) :
    field? number mark (digits ++ mark :: rest) = some (value, rest) := by
  have clean : mark ∉ digits := fun member => by
    rw [all mark member] at isMark
    cases isMark
  simp only [field?, splitFirst_append clean, Option.bind_eq_bind, Option.bind_some, read]
  rfl

theorem field_ofNat (value : Nat) {mark : Char} (isMark : mark.isDigit = false) (rest : Text) :
    field? plainNumber? mark (ofNat value ++ mark :: rest) = some (value, rest) := by
  refine field_digits ?_ (ofNat_isDigit value) isMark rest
  rw [plainNumber?, Numeral.digitsValue_ofNat, if_pos rfl]

theorem padded_length {places value : Nat} (below : value < 10 ^ (places + 1)) :
    (padded (places + 1) value).length = places + 1 := by
  have digits := ofNat_length below
  rw [padded, List.length_append, List.length_replicate]
  omega

theorem field_padded {places value : Nat} (below : value < 10 ^ (places + 1)) {mark : Char}
    (isMark : mark.isDigit = false) (rest : Text) :
    field? (fixedWidth? (places + 1)) mark (padded (places + 1) value ++ mark :: rest) =
      some (value, rest) := by
  have all := padded_isDigit (places + 1) value
  refine field_digits ?_ all isMark rest
  rw [fixedWidth?, Numeral.digitsValue_padded, if_pos]
  exact ⟨padded_length below, List.all_eq_true.2 all⟩

end Text

namespace Moment

/-- Reads a time stamp in universal time: the year in plain digits, and two digits for each of the
other fields, but three for the milliseconds. -/
def readStamp? (text : Text) : Option Moment := do
  let (year, text) ← Text.field? Text.plainNumber? '-' text
  let (month, text) ← Text.field? (Text.fixedWidth? 2) '-' text
  let (day, text) ← Text.field? (Text.fixedWidth? 2) 'T' text
  let (hour, text) ← Text.field? (Text.fixedWidth? 2) ':' text
  let (minute, text) ← Text.field? (Text.fixedWidth? 2) ':' text
  let (second, text) ← Text.field? (Text.fixedWidth? 2) '.' text
  let (millisecond, text) ← Text.field? (Text.fixedWidth? 3) 'Z' text
  if text = [] then
    some ⟨⟨year, month, day⟩, hour, minute, second, 1000 * millisecond, none⟩
  else none

/-- The microseconds of universal time from the first day of year one to a moment. -/
def instant (moment : Moment) : Int :=
  (((moment.date.daysBefore * 24 + moment.hour : Int) * 60 + moment.minute) * 60 +
    moment.second) * 1000000 + moment.microsecond - moment.offset.getD 0

/-- The microseconds of the years from one to 9999. -/
def calendarEnd : Int :=
  Date.daysBefore ⟨10000, 1, 1⟩ * 86400000000

/-- A moment of universal time at the beginning of its millisecond. -/
def toMillisecond (moment : Moment) : Moment :=
  { moment with microsecond := 1000 * (moment.microsecond / 1000), offset := none }

/-- The text of fields that fit their widths reads back to these fields. -/
theorem readStamp_text {moment : Moment} (month : moment.date.month < 100)
    (day : moment.date.day < 100) (hour : moment.hour < 100) (minute : moment.minute < 100)
    (second : moment.second < 100) (microsecond : moment.microsecond < 1000000) :
    readStamp? moment.text = some moment.toMillisecond := by
  have millisecond : moment.microsecond / 1000 < 10 ^ (2 + 1) := by omega
  simp only [readStamp?, text, List.append_assoc, List.cons_append]
  simp (disch := decide) only [Option.bind_eq_bind, Option.bind_some, Text.field_ofNat,
    @Text.field_padded 1 _ month, @Text.field_padded 1 _ day, @Text.field_padded 1 _ hour,
    @Text.field_padded 1 _ minute, @Text.field_padded 1 _ second,
    @Text.field_padded 2 _ millisecond]
  rfl

/-- A moment of the calendar is read back from its own text. -/
theorem Valid.readStamp {moment : Moment} (valid : moment.Valid) :
    readStamp? moment.text = some moment.toMillisecond := by
  obtain ⟨⟨-, -, -, lastMonth, -, lastDay⟩, hour, minute, second, microsecond, -⟩ := valid
  have lengths := Date.monthLength_le moment.date.year moment.date.month
  exact readStamp_text (by omega) (by omega) (by omega) (by omega) (by omega) microsecond

theorem calendarEnd_eq : calendarEnd = dayLimit * 86400000000 := by
  rw [calendarEnd, ← Date.dayNumber_eq]
  rfl

theorem instant_eq (moment : Moment) : moment.instant = moment.universalTime := by
  rw [instant, universalTime, localSeconds, ← Date.dayNumber_eq]
  push_cast
  omega

/-- Only moments outside of the years from one to 9999 have no universal time. -/
theorem toUniversal_error {moment : Moment} {fault : Fault} :
    moment.toUniversal = .error fault ↔
      fault = .dateOutOfRange ∧ (moment.instant < 0 ∨ calendarEnd ≤ moment.instant) := by
  have outside : (moment.universalTime < 0 ∨
      ((dayLimit * 86400000000 : Nat) : Int) ≤ moment.universalTime) ↔
        (moment.instant < 0 ∨ calendarEnd ≤ moment.instant) := by
    rw [instant_eq, calendarEnd_eq]
    push_cast
    rfl
  rw [toUniversal, ← outside]
  split_ifs with beyond
  · exact ⟨fun failed => ⟨(Except.error.inj failed).symm, beyond⟩, fun same => by rw [same.1]⟩
  · exact ⟨nofun, fun same => absurd same.2 beyond⟩

theorem universalTime_ofSeconds (seconds microsecond : Nat) :
    (ofSeconds seconds microsecond).universalTime = seconds * 1000000 + microsecond := by
  have whole : (ofSeconds seconds microsecond).localSeconds = seconds := by
    simp only [localSeconds, ofSeconds, Date.dayNumber_ofDayNumber]
    omega
  rw [universalTime, whole]
  simp [ofSeconds]

/-- The universal time of a moment is a moment of the calendar and denotes the same instant. -/
theorem toUniversal_ok {moment universal : Moment}
    (converted : moment.toUniversal = .ok universal) :
    universal.Valid ∧ universal.offset = none ∧ universal.instant = moment.instant := by
  rw [toUniversal] at converted
  split_ifs at converted with beyond
  cases converted
  obtain ⟨time, count⟩ : ∃ time : Nat, moment.universalTime = time :=
    Int.eq_ofNat_of_zero_le (by omega)
  rw [count] at beyond
  rw [instant_eq, instant_eq, universalTime_ofSeconds, count, Int.toNat_natCast]
  have inCalendar : time / 1000000 / 86400 < Date.daysOfYears 9999 := by
    rw [← dayLimit]
    omega
  refine ⟨⟨Date.ofDayNumber_valid inCalendar, Nat.mod_lt _ (by decide), Nat.mod_lt _ (by decide),
    Nat.mod_lt _ (by decide), Nat.mod_lt _ (by decide), Nat.zero_lt_succ _⟩, rfl, ?_⟩
  omega

/-- Moments of universal time at one instant are the same. -/
theorem instant_injective {first second : Moment} (firstValid : first.Valid)
    (secondValid : second.Valid) (firstUniversal : first.offset = none)
    (secondUniversal : second.offset = none) (same : first.instant = second.instant) :
    first = second := by
  rw [instant_eq, instant_eq, universalTime, universalTime, localSeconds, localSeconds,
    firstUniversal, secondUniversal] at same
  obtain ⟨firstDate, firstHour, firstMinute, firstSecond, firstMicrosecond, -⟩ := firstValid
  obtain ⟨secondDate, secondHour, secondMinute, secondSecond, secondMicrosecond, -⟩ := secondValid
  push_cast at same
  have date : first.date = second.date := by
    have number : first.date.dayNumber = second.date.dayNumber := by omega
    rw [← firstDate.ofDayNumber, ← secondDate.ofDayNumber, number]
  rw [date] at same
  cases first
  cases second
  dsimp only at *
  subst date firstUniversal secondUniversal
  congr 1 <;> omega

theorem instant_toMillisecond {moment : Moment} (universal : moment.offset = none) :
    moment.toMillisecond.instant = moment.instant / 1000 * 1000 := by
  rw [instant_eq, instant_eq, universalTime, universalTime, universal, toMillisecond]
  dsimp only [localSeconds, Option.getD_none]
  push_cast
  omega

theorem Valid.toMillisecond {moment : Moment} (valid : moment.Valid) :
    moment.toMillisecond.Valid := by
  obtain ⟨date, hour, minute, second, microsecond, -⟩ := valid
  have rounded : 1000 * (moment.microsecond / 1000) < 1000000 := by omega
  exact ⟨date, hour, minute, second, rounded, Nat.zero_lt_succ _⟩

/-- A clock without an offset stays within the calendar. -/
theorem Valid.toUniversal_naive {moment : Moment} (valid : moment.Valid)
    (naive : moment.offset = none) : moment.toUniversal = .ok moment := by
  have inside : ¬(moment.instant < 0 ∨ calendarEnd ≤ moment.instant) := by
    have day := valid.1.dayNumber_lt
    rw [← dayLimit] at day
    obtain ⟨-, hour, minute, second, microsecond, -⟩ := valid
    rw [instant_eq, calendarEnd_eq, universalTime, localSeconds, naive, Option.getD_none]
    push_cast
    omega
  cases converted : moment.toUniversal with
  | error fault => exact absurd (toUniversal_error.1 converted).2 inside
  | ok universal =>
    obtain ⟨universalValid, noOffset, same⟩ := toUniversal_ok converted
    rw [instant_injective universalValid valid noOffset naive same]

theorem stamp_error {moment : Moment} {fault : Fault} :
    moment.stamp = .error fault ↔ moment.toUniversal = .error fault := by
  rw [stamp, Result.bind_error]
  constructor
  · rintro (failed | ⟨_, -, ⟨⟩⟩)
    exact failed
  · exact .inl

/-- The universal time of a moment depends on its instant alone. -/
theorem toUniversal_same {first second : Moment} (same : first.instant = second.instant) :
    first.toUniversal = second.toUniversal := by
  cases converted : first.toUniversal with
  | error fault =>
    have failed := toUniversal_error.1 converted
    rw [same] at failed
    exact (toUniversal_error.2 failed).symm
  | ok universal =>
    obtain ⟨valid, noOffset, instant⟩ := toUniversal_ok converted
    cases other : second.toUniversal with
    | error fault =>
      have failed := toUniversal_error.1 other
      rw [← same] at failed
      cases converted.symm.trans (toUniversal_error.2 failed)
    | ok otherUniversal =>
      obtain ⟨otherValid, otherNoOffset, otherInstant⟩ := toUniversal_ok other
      have equal : universal.instant = otherUniversal.instant :=
        instant.trans (same.trans otherInstant.symm)
      rw [instant_injective valid otherValid noOffset otherNoOffset equal]

/-- A time stamp reads back to the instant of its moment, rounded down to the millisecond, whatever
the offset of the clock. Only a moment with an offset can have none, where its universal time leaves
the calendar. -/
theorem stamp_denotes {moment : Moment} (valid : moment.Valid) :
    (0 ≤ moment.instant → moment.instant < calendarEnd → ∃ text read,
      moment.stamp = .ok text ∧ readStamp? text = some read ∧ read.Valid ∧
        read.offset = none ∧ read.instant = moment.instant / 1000 * 1000) ∧
    (∀ fault, moment.stamp = .error fault ↔ fault = .dateOutOfRange ∧
      moment.offset.isSome = true ∧ (moment.instant < 0 ∨ calendarEnd ≤ moment.instant)) ∧
    (∀ other : Moment, other.Valid → other.instant = moment.instant →
      other.stamp = moment.stamp) ∧
    (moment.offset = none → moment.stamp = .ok moment.text ∧
      readStamp? moment.text = some moment.toMillisecond) := by
  refine ⟨?_, ?_, ?_, ?_⟩
  · intro begun notEnded
    cases converted : moment.toUniversal with
    | error fault =>
      have outside := (toUniversal_error.1 converted).2
      omega
    | ok universal =>
      obtain ⟨universalValid, noOffset, instant⟩ := toUniversal_ok converted
      refine ⟨universal.text, universal.toMillisecond, ?_, universalValid.readStamp,
        universalValid.toMillisecond, rfl, ?_⟩
      · rw [stamp, converted]
        rfl
      · rw [instant_toMillisecond noOffset, instant]
  · intro fault
    rw [stamp_error, toUniversal_error]
    refine and_congr_right fun _ => ⟨fun outside => ⟨?_, outside⟩, And.right⟩
    rw [Option.isSome_iff_ne_none]
    intro naive
    have failed := toUniversal_error.2 ⟨rfl, outside⟩
    rw [valid.toUniversal_naive naive] at failed
    cases failed
  · intro other otherValid same
    rw [stamp, stamp, toUniversal_same same]
  · intro naive
    refine ⟨?_, valid.readStamp⟩
    rw [stamp, valid.toUniversal_naive naive]
    rfl

/-- On the last day of a leap February, half an hour before its end on a clock that is five and a
half hours behind, it is already March in universal time. -/
theorem stamp_denotes_leapDay :
    (⟨⟨2024, 2, 29⟩, 23, 30, 0, 1999, some (-19800000000)⟩ : Moment).stamp =
        .ok "2024-03-01T05:00:00.001Z".toList ∧
      ∃ text read,
        (⟨⟨2024, 2, 29⟩, 23, 30, 0, 1999, some (-19800000000)⟩ : Moment).stamp = .ok text ∧
        readStamp? text = some read ∧
        read.instant = (⟨⟨2024, 2, 29⟩, 23, 30, 0, 1999, some (-19800000000)⟩ : Moment).instant /
          1000 * 1000 := by
  refine ⟨by decide +kernel, ?_⟩
  obtain ⟨text, read, stamped, reads, -, -, instant⟩ :=
    (stamp_denotes (by decide : Valid ⟨⟨2024, 2, 29⟩, 23, 30, 0, 1999, some (-19800000000)⟩)).1
      (by decide +kernel) (by rw [calendarEnd_eq]; decide +kernel)
  exact ⟨text, read, stamped, reads, instant⟩

end Moment

end QuadrantChart
