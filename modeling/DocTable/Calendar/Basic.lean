/-
**The Gregorian calendar in both directions of time.**

Days are counted from 1 January 1970. Years count eras of 400 years from 1 March of the year 0, so
that the leap day is the last of its year.

* `Date.ofDays`, `Date.toDays`: dates and day numbers;
* `weekday`, `Date.ordinal`, `isoWeek`: places of a day in its week and its year;
* `Moment.ofMillis`: the clock at a millisecond.
-/

namespace DocTable.Calendar

/-- A day of the calendar. -/
structure Date where
  year : Int
  month : Nat
  day : Nat
deriving DecidableEq, Repr

/-- The date of a day number. -/
def Date.ofDays (days : Int) : Date :=
  let shifted := days + 719468
  let era := shifted.fdiv 146097
  let dayOfEra := (shifted - era * 146097).toNat
  let yearOfEra := (dayOfEra - dayOfEra / 1460 + dayOfEra / 36524 - dayOfEra / 146096) / 365
  let dayOfYear := dayOfEra - (365 * yearOfEra + yearOfEra / 4 - yearOfEra / 100)
  let fromMarch := (5 * dayOfYear + 2) / 153
  let month := if fromMarch < 10 then fromMarch + 3 else fromMarch - 9
  { year := yearOfEra + era * 400 + (if month ≤ 2 then 1 else 0)
    month
    day := dayOfYear - (153 * fromMarch + 2) / 5 + 1 }

/-- The day number of a date. -/
def Date.toDays (d : Date) : Int :=
  let year := if d.month ≤ 2 then d.year - 1 else d.year
  let era := year.fdiv 400
  let yearOfEra := (year - era * 400).toNat
  let fromMarch := if 2 < d.month then d.month - 3 else d.month + 9
  let dayOfYear := (153 * fromMarch + 2) / 5 + d.day - 1
  let dayOfEra := yearOfEra * 365 + yearOfEra / 4 - yearOfEra / 100 + dayOfYear
  era * 146097 + dayOfEra - 719468

def isLeap (year : Int) : Bool :=
  decide (year % 4 = 0 ∧ (year % 100 ≠ 0 ∨ year % 400 = 0))

def daysInMonth (year : Int) (month : Nat) : Nat :=
  if month = 2 then (if isLeap year then 29 else 28)
  else if month = 4 ∨ month = 6 ∨ month = 9 ∨ month = 11 then 30
  else 31

/-- Whether month and day exist. -/
def Date.isValid (d : Date) : Bool :=
  decide (1 ≤ d.month ∧ d.month ≤ 12 ∧ 1 ≤ d.day ∧ d.day ≤ daysInMonth d.year d.month)

/-- The day of the week, Sunday being 0. -/
def weekday (days : Int) : Nat := ((days + 4) % 7).toNat

/-- The day of the week, Monday being 1 and Sunday 7. -/
def isoWeekday (days : Int) : Nat := if weekday days = 0 then 7 else weekday days

/-- The place of a day in its year, from 1. -/
def ordinal (days : Int) : Nat :=
  (days - (Date.toDays ⟨(Date.ofDays days).year, 1, 1⟩) + 1).toNat

/-- The year and number of the week, which belongs to the year of its Thursday. -/
def isoWeek (days : Int) : Int × Nat :=
  let thursday := days + 4 - isoWeekday days
  ((Date.ofDays thursday).year, (ordinal thursday - 1) / 7 + 1)

/-- The number of weeks of the year begun so far, `since` being the days since a week began. -/
def weeksBegun (days : Int) (since : Nat) : Nat := (ordinal days + 6 - since) / 7

/-- The calendar and the clock at one millisecond. -/
structure Moment where
  /-- Whole seconds since the start of 1970, rounded down. -/
  unix : Int
  days : Int
  date : Date
  hour : Nat
  minute : Nat
  second : Nat
  milli : Nat
deriving DecidableEq, Repr

def Moment.ofMillis (millis : Int) : Moment :=
  let unix := millis.fdiv 1000
  let days := unix.fdiv 86400
  let clock := (unix - days * 86400).toNat
  { unix
    days
    date := Date.ofDays days
    hour := clock / 3600
    minute := clock / 60 % 60
    second := clock % 60
    milli := (millis - unix * 1000).toNat }

/-- The first and the last millisecond that a date text is made for: 1 January of the year -262143
and 31 December of the year 262142. -/
def firstMillis : Int := -8334601228800000
def lastMillis : Int := 8210266876799999

/-- The moment of a millisecond whose year is in reach. -/
def Moment.ofMillis? (millis : Int) : Option Moment :=
  if firstMillis ≤ millis ∧ millis ≤ lastMillis then some (ofMillis millis) else none

end DocTable.Calendar
