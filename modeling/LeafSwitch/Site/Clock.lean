import LeafSwitch.Number.Binary64
import LeafSwitch.Time.Instant

/-!
# Clocks

A calendar clock is given by all that it will ever show, reading by reading. Nothing is known of its
readings but that they lie within the calendar. How long a section took is told by two readings of a
stopwatch.
-/

namespace LeafSwitch.Site

open Number (Binary64)

/-- A clock with its readings. -/
structure Clock where
  /-- What the clock shows at each reading, counted from 0. -/
  readings : Nat → Time.Instant
  /-- All readings lie within the calendar. -/
  inRange : ∀ n, (readings n).inRange = true
  /-- The readings taken so far. -/
  taken : Nat

namespace Clock

/-- The time a reading shows now. -/
def now (c : Clock) : Time.Instant :=
  c.readings c.taken

/-- The clock after a reading. -/
def advanced (c : Clock) : Clock :=
  { c with taken := c.taken + 1 }

end Clock

/-- The milliseconds between two readings in seconds. -/
def elapsed (start stop : Binary64) : Binary64 :=
  .mul (.sub stop start) (.ofInt 1000)

end LeafSwitch.Site
