/-!
# The calendar

Dates of the proleptic Gregorian calendar from the year 1 to the year 9999, and times of day down
to the microsecond.  A civil time is placed on one line by counting the microseconds since the
first midnight of the year 1.
-/

namespace PlaybackRules

/-- Has the year a 29th of February? -/
def isLeapYear (year : Nat) : Bool :=
  year % 4 == 0 && (year % 100 != 0 || year % 400 == 0)

/-- The number of days of a month. -/
def daysInMonth (year month : Nat) : Nat :=
  match month with
  | 2 => if isLeapYear year then 29 else 28
  | 4 | 6 | 9 | 11 => 30
  | _ => 31

/-- A date of the calendar. -/
structure Date where
  year : Nat
  month : Nat
  day : Nat
  year_le : 1 ≤ year ∧ year ≤ 9999
  month_le : 1 ≤ month ∧ month ≤ 12
  day_le : 1 ≤ day ∧ day ≤ daysInMonth year month
  deriving DecidableEq, Repr

namespace Date

/-- The date with the given numbers, if there is one. -/
def ofNumbers? (year month day : Nat) : Option Date :=
  if h : (1 ≤ year ∧ year ≤ 9999) ∧ (1 ≤ month ∧ month ≤ 12) ∧
      (1 ≤ day ∧ day ≤ daysInMonth year month) then
    some ⟨year, month, day, h.1, h.2.1, h.2.2⟩
  else none

/-- The days before the first of January of a year. -/
def daysBeforeYear (year : Nat) : Nat :=
  let past := year - 1
  365 * past + past / 4 - past / 100 + past / 400

/-- The days of a year before the first of a month. -/
def daysBeforeMonth (year month : Nat) : Nat :=
  ((List.range month).drop 1).foldl (fun days m => days + daysInMonth year m) 0

/-- The days since the first of January of the year 1. -/
def dayNumber (date : Date) : Nat :=
  daysBeforeYear date.year + daysBeforeMonth date.year date.month + (date.day - 1)

/-- The date a number of days after the first of January of the year 1.  Years are counted from
the first of March, which puts the leap day last. -/
def ofDayNumber? (days : Nat) : Option Date :=
  let shifted := days + 306
  let era := shifted / 146097
  let dayOfEra := shifted % 146097
  let yearOfEra := (dayOfEra - dayOfEra / 1460 + dayOfEra / 36524 - dayOfEra / 146096) / 365
  let dayOfYear := dayOfEra - (365 * yearOfEra + yearOfEra / 4 - yearOfEra / 100)
  let monthFromMarch := (5 * dayOfYear + 2) / 153
  let day := dayOfYear - (153 * monthFromMarch + 2) / 5 + 1
  let month := if monthFromMarch < 10 then monthFromMarch + 3 else monthFromMarch - 9
  let year := yearOfEra + 400 * era + (if month ≤ 2 then 1 else 0)
  ofNumbers? year month day

end Date

/-- A date with a time of day, of no particular zone. -/
structure CivilTime where
  date : Date
  hour : Fin 24
  minute : Fin 60
  second : Fin 60
  micro : Fin 1000000
  deriving DecidableEq, Repr

namespace CivilTime

/-- The microseconds of one day. -/
def dayLength : Int := 86400 * 1000000

/-- The microseconds since the first midnight of the year 1. -/
def micros (t : CivilTime) : Int :=
  ((t.date.dayNumber * 86400 + t.hour * 3600 + t.minute * 60 + t.second : Nat) : Int) * 1000000 +
    t.micro

/-- The microseconds from the first midnight of the year 1 to the end of the year 9999. -/
def calendarEnd : Int := 3652059 * dayLength

/-- Does a count of microseconds fall within the calendar? -/
def inCalendar (micros : Int) : Bool := 0 ≤ micros && micros < calendarEnd

/-- The time a number of whole seconds and microseconds after the first midnight of the year 1. -/
def ofSeconds? (seconds micro : Nat) : Option CivilTime :=
  (Date.ofDayNumber? (seconds / 86400)).map fun date =>
    let rest := seconds % 86400
    ⟨date, Fin.ofNat 24 (rest / 3600), Fin.ofNat 60 (rest / 60), Fin.ofNat 60 rest,
      Fin.ofNat 1000000 micro⟩

end CivilTime

end PlaybackRules
