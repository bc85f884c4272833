import LeafSwitch.Time.Calendar

/-!
# Instants

A point in time is a count of microseconds since the beginning of 1970 in universal time. Two texts
are made of it: one with milliseconds, for device logs, and one with all its digits, for the audit
trail.
-/

namespace LeafSwitch.Time

/-- A point in time, in microseconds since 1970 in universal time. -/
structure Instant where
  /-- The microseconds; times before 1970 are negative. -/
  micros : Int
  deriving DecidableEq, Repr

/-- Microseconds in a day. -/
def microsPerDay : Int := 86400000000

/-- A clock reading in some place: a date, a time of day, and how far the place is ahead of
universal time. -/
structure LocalTime where
  /-- The date there. -/
  date : Date
  /-- The hour, from 0 to 23. -/
  hour : Nat
  /-- The minute, from 0 to 59. -/
  minute : Nat
  /-- The second, from 0 to 59. -/
  second : Nat
  /-- The microsecond, from 0 to 999999. -/
  micro : Nat
  /-- The seconds by which local time is ahead. -/
  offset : Int
  deriving DecidableEq, Repr

/-- The instant at which a clock in some place shows a reading. -/
def LocalTime.instant (t : LocalTime) : Instant :=
  let seconds : Int := (t.hour * 3600 + t.minute * 60 + t.second : Nat)
  ⟨((t.date.dayNumber : Int) - epochDay) * microsPerDay + (seconds - t.offset) * 1000000 + t.micro⟩

namespace Instant

/-- Microseconds since the beginning of year 1. -/
def sinceYearOne (t : Instant) : Int :=
  t.micros + epochDay * microsPerDay

/-- Whether an instant falls into the years 1 to 9999 of universal time. -/
def inRange (t : Instant) : Bool :=
  0 ≤ t.sinceYearOne && t.sinceYearOne < endDay * microsPerDay

/-- The date of an instant. -/
def date (t : Instant) : Date :=
  .ofDayNumber (t.sinceYearOne / microsPerDay).toNat

/-- The microseconds since midnight. -/
def timeOfDay (t : Instant) : Nat :=
  (t.sinceYearOne % microsPerDay).toNat

/-- A number written with at least `width` decimal digits. -/
def padded (width n : Nat) : String :=
  let digits := Nat.toDigits 10 n
  String.ofList (List.replicate (width - digits.length) '0' ++ digits)

/-- The date and the time to the second, as `2025-01-01T10:00:00`. -/
def secondsText (t : Instant) : String :=
  let d := t.date
  let seconds := t.timeOfDay / 1000000
  padded 4 d.year ++ "-" ++ padded 2 d.month ++ "-" ++ padded 2 d.day ++ "T" ++
    padded 2 (seconds / 3600) ++ ":" ++ padded 2 (seconds / 60 % 60) ++ ":" ++
    padded 2 (seconds % 60)

/-- The text of an instant in device logs: universal time with milliseconds, the rest cut off. -/
def text (t : Instant) : String :=
  t.secondsText ++ "." ++ padded 3 (t.timeOfDay % 1000000 / 1000) ++ "Z"

/-- The text of an instant in the audit trail: microseconds are left out where there are none. -/
def fullText (t : Instant) : String :=
  let micros := t.timeOfDay % 1000000
  t.secondsText ++ (if micros = 0 then "" else "." ++ padded 6 micros) ++ "+00:00"

end Instant

end LeafSwitch.Time
