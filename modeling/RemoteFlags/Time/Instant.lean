import RemoteFlags.Text.Numeral
import RemoteFlags.Time.Date

/-!
# Instants

Points in time, in seconds since the start of 1970 and nanoseconds.  The nanoseconds of a leap
second go on from 10^9.  Instants outside the years from -262143 to 262142 cannot be represented,
and spans of more than 9223372036854775 seconds cannot either.

## Main definitions

* `Instant`, with the order by seconds and then nanoseconds.
* `Instant.after?`: the instant some seconds later, if it can be represented.
* `Instant.text`: an instant as date and time.
* `Instant.ofParts?`: the instant of a date and a time of day at some place.

## Main statements

* `Instant.le_trans`, `Instant.lt_of_lt_of_le`: the order.
* `Instant.after?_of_inRange`: no span between two instants is too long.
-/

namespace RemoteFlags

/-- A point in time. -/
structure Instant where
  /-- Whole seconds since the start of 1970. -/
  seconds : Int
  /-- Nanoseconds on top of them. -/
  nanos : Nat := 0
deriving DecidableEq, Repr

namespace Instant

/-- Earlier in time. -/
def IsBefore (a b : Instant) : Prop :=
  a.seconds < b.seconds ∨ (a.seconds = b.seconds ∧ a.nanos < b.nanos)

instance : LT Instant := ⟨IsBefore⟩

instance (a b : Instant) : Decidable (a < b) := inferInstanceAs (Decidable (_ ∨ _))

/-- Not later in time. -/
instance : LE Instant := ⟨fun a b => ¬ b < a⟩

instance (a b : Instant) : Decidable (a ≤ b) := inferInstanceAs (Decidable (¬ _))

theorem lt_of_lt_of_le {a b c : Instant} (h : a < b) (h' : b ≤ c) : a < c := by
  change IsBefore a b at h
  change ¬ IsBefore c b at h'
  change IsBefore a c
  unfold IsBefore at *
  omega

theorem le_trans {a b c : Instant} (h : a ≤ b) (h' : b ≤ c) : a ≤ c := by
  change ¬ IsBefore b a at h
  change ¬ IsBefore c b at h'
  change ¬ IsBefore c a
  unfold IsBefore at *
  omega

/-- The seconds of a day. -/
def secondsPerDay : Int := 86400

/-- The first second that can be represented: the start of the year -262143. -/
def firstSecond : Int := Date.toDays ⟨-262143, 1, 1⟩ * secondsPerDay

/-- The last second that can be represented: the end of the year 262142. -/
def lastSecond : Int := (Date.toDays ⟨262142, 12, 31⟩ + 1) * secondsPerDay - 1

/-- The instant can be represented. -/
def InRange (t : Instant) : Prop := firstSecond ≤ t.seconds ∧ t.seconds ≤ lastSecond

instance (t : Instant) : Decidable t.InRange := inferInstanceAs (Decidable (_ ∧ _))

/-- The longest span, in seconds. -/
def longestSpan : Int := 9223372036854775

/-- The instant a number of seconds later, or earlier if the number is negative. -/
def plus (t : Instant) (seconds : Int) : Instant := { t with seconds := t.seconds + seconds }

/-- The instant a number of seconds later, if both the span and the instant can be represented. -/
def after? (t : Instant) (seconds : Int) : Option Instant :=
  if -longestSpan ≤ seconds ∧ seconds ≤ longestSpan ∧ (t.plus seconds).InRange then
    some (t.plus seconds)
  else none

theorem firstSecond_eq : firstSecond = -8334601228800 := by decide

theorem lastSecond_eq : lastSecond = 8210266876799 := by decide

/-- Going on from an instant ends where instants do; no span that leads from one to another is too
long. -/
theorem after?_of_inRange {t : Instant} (h : t.InRange) (n : Int) :
    t.after? n = if (t.plus n).InRange then some (t.plus n) else none := by
  by_cases hn : (t.plus n).InRange
  · have hspan : -longestSpan ≤ n ∧ n ≤ longestSpan := by
      simp only [InRange, plus, firstSecond_eq, lastSecond_eq] at h hn
      unfold longestSpan
      omega
    rw [after?, if_pos ⟨hspan.1, hspan.2, hn⟩, if_pos hn]
  · rw [after?, if_neg fun hall => hn hall.2.2, if_neg hn]

/-! ### Writing -/

/-- A year: four digits, with a sign outside the years from 0 to 9999. -/
def yearText (year : Int) : String :=
  let digits := Text.padded 4 year.natAbs
  if year < 0 then "-" ++ digits
  else if 9999 < year then "+" ++ digits
  else digits

/-- The fraction of a second with as many groups of three digits as it needs. -/
def fractionText (nanos : Nat) : String :=
  if nanos = 0 then ""
  else if nanos % 1000000 = 0 then "." ++ Text.padded 3 (nanos / 1000000)
  else if nanos % 1000 = 0 then "." ++ Text.padded 6 (nanos / 1000)
  else "." ++ Text.padded 9 nanos

/-- Date and time of day, in universal time. -/
def text (t : Instant) : String :=
  let date := Date.ofDays (t.seconds / secondsPerDay)
  let second := (t.seconds % secondsPerDay).toNat
  let leap := 1000000000 ≤ t.nanos
  yearText date.year ++ "-" ++ Text.padded 2 date.month ++ "-" ++ Text.padded 2 date.day ++ " " ++
    Text.padded 2 (second / 3600) ++ ":" ++ Text.padded 2 (second / 60 % 60) ++ ":" ++
    Text.padded 2 (second % 60 + if leap then 1 else 0) ++
    fractionText (if leap then t.nanos - 1000000000 else t.nanos) ++ " UTC"

/-! ### Instants from dates -/

/-- A time of day at a place. -/
structure TimeOfDay where
  /-- The hour, from 0 to 23. -/
  hour : Nat
  /-- The minute, from 0 to 59. -/
  minute : Nat
  /-- The second, from 0 to 59, or 60 for a leap second. -/
  second : Nat := 0
  /-- The fraction of the second. -/
  nanos : Nat := 0
  /-- How many seconds the place is ahead of universal time. -/
  ahead : Int := 0
deriving DecidableEq, Repr

/-- The instant of a date and a time of day, if they exist and can be represented. -/
def ofParts? (d : Date) (t : TimeOfDay) : Option Instant :=
  if d.IsValid ∧ t.hour < 24 ∧ t.minute < 60 ∧ t.second ≤ 60 ∧ t.ahead.natAbs < 86400 then
    let second := if t.second = 60 then 59 else t.second
    let nanos := if t.second = 60 then 1000000000 + t.nanos else t.nanos
    let i : Instant :=
      ⟨d.toDays * secondsPerDay + (3600 * t.hour + 60 * t.minute + second : Nat) - t.ahead, nanos⟩
    if i.InRange then some i else none
  else none

end Instant

end RemoteFlags
