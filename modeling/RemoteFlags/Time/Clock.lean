import RemoteFlags.Time.Instant

/-!
# Clocks

A clock gives a reading whenever it is asked.  The readings are fixed beforehand, one after the
other, so that what a program does with them is a function of the clock.

## Main definitions

* `Clock`, `Clock.read`: readings, and taking the next one.
* `Clock.IsMonotone`: no reading is before an earlier one.
-/

namespace RemoteFlags

/-- A clock with its readings. -/
structure Clock where
  /-- The readings. -/
  reading : Nat → Instant
  /-- How many readings were taken. -/
  taken : Nat := 0

namespace Clock

/-- Takes the next reading. -/
def read (c : Clock) : Instant × Clock := (c.reading c.taken, { c with taken := c.taken + 1 })

/-- No reading lies before an earlier one. -/
def IsMonotone (c : Clock) : Prop := ∀ i j, i ≤ j → c.reading i ≤ c.reading j

end Clock

end RemoteFlags
