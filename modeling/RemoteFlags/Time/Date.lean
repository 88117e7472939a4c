/-!
# Calendar dates

Dates of the Gregorian calendar, continued into the past and future without end, and their distance
in days from 1 January 1970.

## Main definitions

* `Date`, `Date.IsValid`: years, months and days.
* `Date.toDays`, `Date.ofDays`: a date as a number of days, and back.
* `weekday`: the day of the week of a number of days.
-/

namespace RemoteFlags

/-- A date. -/
structure Date where
  /-- The year; the year before 1 is 0. -/
  year : Int
  /-- The month, from 1 on. -/
  month : Nat
  /-- The day of the month, from 1 on. -/
  day : Nat
deriving DecidableEq, Repr

namespace Date

/-- Whether a year has 366 days. -/
def isLeapYear (year : Int) : Bool :=
  year % 4 == 0 && (year % 100 != 0 || year % 400 == 0)

/-- The number of days of a month. -/
def daysInMonth (year : Int) (month : Nat) : Nat :=
  if month = 2 then (if isLeapYear year then 29 else 28)
  else if month = 4 ∨ month = 6 ∨ month = 9 ∨ month = 11 then 30
  else 31

/-- Month and day exist in the year. -/
def IsValid (d : Date) : Prop :=
  1 ≤ d.month ∧ d.month ≤ 12 ∧ 1 ≤ d.day ∧ d.day ≤ daysInMonth d.year d.month

instance (d : Date) : Decidable d.IsValid := inferInstanceAs (Decidable (_ ∧ _))

/-- The days from 1 January 1970 to a date.  Years are counted from March, so that the leap day is
the last day of a year, and in cycles of 400 years, which have 146097 days. -/
def toDays (d : Date) : Int :=
  let year := if d.month ≤ 2 then d.year - 1 else d.year
  let cycle := year / 400
  let yearOfCycle := year % 400
  let month := (d.month + 9) % 12
  let dayOfYear : Int := (153 * month + 2) / 5 + d.day - 1
  cycle * 146097 + (yearOfCycle * 365 + yearOfCycle / 4 - yearOfCycle / 100 + dayOfYear) - 719468

/-- The date that lies a number of days after 1 January 1970. -/
def ofDays (days : Int) : Date :=
  let fromMarch := days + 719468
  let cycle := fromMarch / 146097
  let dayOfCycle := (fromMarch % 146097).toNat
  let leapDays := dayOfCycle / 1460 - dayOfCycle / 36524 + dayOfCycle / 146096
  let yearOfCycle := (dayOfCycle - leapDays) / 365
  let dayOfYear := dayOfCycle - (365 * yearOfCycle + yearOfCycle / 4 - yearOfCycle / 100)
  let monthFromMarch := (5 * dayOfYear + 2) / 153
  let month := if monthFromMarch < 10 then monthFromMarch + 3 else monthFromMarch - 9
  let year := cycle * 400 + yearOfCycle
  ⟨if month ≤ 2 then year + 1 else year, month, dayOfYear - (153 * monthFromMarch + 2) / 5 + 1⟩

/-- The day of the week: 0 is Monday, 6 is Sunday. -/
def weekday (days : Int) : Nat := ((days + 3) % 7).toNat

end Date

end RemoteFlags
