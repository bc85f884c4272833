/-!
# Calendar

The proleptic Gregorian calendar over the years 1 to 9999. A day is counted from the first of
January of year 1, which is day zero.
-/

namespace LeafSwitch.Time

/-- A calendar date. -/
structure Date where
  /-- The year, from 1. -/
  year : Nat
  /-- The month, from 1 to 12. -/
  month : Nat
  /-- The day of the month, from 1. -/
  day : Nat
  deriving DecidableEq, Repr

/-- A leap year is divisible by 4, and by 400 if it is divisible by 100. -/
def isLeap (year : Nat) : Bool :=
  year % 4 == 0 && (year % 100 != 0 || year % 400 == 0)

/-- The lengths of the months of a year, in order. -/
def monthLengths (year : Nat) : List Nat :=
  [31, if isLeap year then 29 else 28, 31, 30, 31, 30, 31, 31, 30, 31, 30, 31]

/-- The days before the first of January of a year. -/
def daysBeforeYear (year : Nat) : Nat :=
  let past := year - 1
  365 * past + past / 4 - past / 100 + past / 400

/-- The number of a date's day. -/
def Date.dayNumber (d : Date) : Nat :=
  daysBeforeYear d.year + ((monthLengths d.year).take (d.month - 1)).foldl (· + ·) 0 + (d.day - 1)

/-- The month and the day of the month that a day of the year falls on, both from 1, where the
months left have the given lengths and `month` is the first of them. -/
def monthDay (month : Nat) : List Nat → Nat → Nat × Nat
  | [], day => (month, day + 1)
  | length :: rest, day =>
    if day < length then (month, day + 1) else monthDay (month + 1) rest (day - length)

/-- The date of a day: 400-year spans of 146097 days, then centuries, four-year spans and years, of
which the fourth of each may be the longer one. -/
def Date.ofDayNumber (n : Nat) : Date :=
  let inSpan := n % 146097
  let century := min 3 (inSpan / 36524)
  let inCentury := inSpan - 36524 * century
  let inFour := inCentury % 1461
  let single := min 3 (inFour / 365)
  let year := 400 * (n / 146097) + 100 * century + 4 * (inCentury / 1461) + single + 1
  let (month, day) := monthDay 1 (monthLengths year) (inFour - 365 * single)
  ⟨year, month, day⟩

/-- The day number of the first of January 1970. -/
def epochDay : Nat := 719162

/-- The first day number after the year 9999. -/
def endDay : Nat := 3652059

end LeafSwitch.Time
