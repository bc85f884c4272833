import LeafSwitch.Time.Instant

/-!
# Readings

A reading of a calendar and a clock in some place, whose numbers are checked: they must make up a
date and a time of day, and the place must be less than a day away from universal time.
-/

namespace LeafSwitch.Time

/-- Why numbers make up no time. -/
inductive TimeError where
  /-- The date leaves the calendar. -/
  | outOfRange
  /-- A number is above those of 32 bits. -/
  | above
  /-- A number is below those of 32 bits. -/
  | below
  /-- A number is beyond 64 bits. -/
  | huge
  /-- A span of days is too long. -/
  | span (days : Int)
  /-- A span has more days than a number of 32 bits. -/
  | endless
  /-- The year is none. -/
  | year (given : Int)
  /-- The month is none. -/
  | month
  /-- The month does not have the day. -/
  | day
  /-- The hour is none. -/
  | hour
  /-- The minute is none. -/
  | minute
  /-- The second is none. -/
  | second
  /-- The microsecond is none. -/
  | micro
  /-- The place is a day or more away, by given seconds. -/
  | offset (seconds : Int)
  deriving DecidableEq, Repr

/-- Seconds in a day. -/
def secondsPerDay : Int := 86400

/-- A span of seconds as it is shown: in days, which may be negative, and seconds. -/
def spanText (seconds : Int) : String :=
  let days := seconds / secondsPerDay
  let rest := seconds % secondsPerDay
  let parts := (if days = 0 then [] else ["days=" ++ toString days]) ++
    (if rest = 0 then [] else ["seconds=" ++ toString rest])
  "datetime.timedelta(" ++ (if parts.isEmpty then "0" else ", ".intercalate parts) ++ ")"

/-- The wording of a failure. -/
def TimeError.message : TimeError → String
  | .outOfRange => "date value out of range"
  | .above => "signed integer is greater than maximum"
  | .below => "signed integer is less than minimum"
  | .huge => "Python int too large to convert to C long"
  | .span days => "days=" ++ toString days ++ "; must have magnitude <= 999999999"
  | .endless => "Python int too large to convert to C int"
  | .year given => "year " ++ toString given ++ " is out of range"
  | .month => "month must be in 1..12"
  | .day => "day is out of range for month"
  | .hour => "hour must be in 0..23"
  | .minute => "minute must be in 0..59"
  | .second => "second must be in 0..59"
  | .micro => "microsecond must be in 0..999999"
  | .offset seconds =>
    "offset must be a timedelta strictly between -timedelta(hours=24) and timedelta(hours=24), " ++
      "not " ++ spanText seconds ++ "."

/-- The date that numbers make up. -/
def Date.check (year month day : Int) : Except TimeError Date :=
  if year < 1 || 9999 < year then .error (.year year)
  else if month < 1 || 12 < month then .error .month
  else
    let days := ((monthLengths year.toNat)[month.toNat - 1]?).getD 0
    if day < 1 || days < day then .error .day else .ok ⟨year.toNat, month.toNat, day.toNat⟩

/-- Check that a number has no more than some bits with its sign. -/
def checkBits (bits : Nat) (tooLow tooHigh : TimeError) (n : Int) : Except TimeError Unit :=
  let limit : Int := Nat.pow 2 (bits - 1)
  if n < -limit then .error tooLow else if limit ≤ n then .error tooHigh else .ok ()

/-- The longest span in days. -/
def longestSpan : Int := 999999999

/-- Check that a span of seconds is not too long. -/
def checkSpan (seconds : Int) : Except TimeError Unit := do
  let days := seconds / secondsPerDay
  checkBits 32 .endless .endless days
  if days < -longestSpan || longestSpan < days then .error (.span days)

/-- The reading that numbers make up. -/
def LocalTime.check (year month day hour minute second micro offset : Int) :
    Except TimeError LocalTime := do
  checkSpan offset
  if offset ≤ -secondsPerDay || secondsPerDay ≤ offset then .error (.offset offset)
  [year, month, day, hour, minute, second, micro].forM fun n => do
    checkBits 64 .huge .huge n
    checkBits 32 .below .above n
  let date ← Date.check year month day
  if hour < 0 || 23 < hour then .error .hour
  if minute < 0 || 59 < minute then .error .minute
  if second < 0 || 59 < second then .error .second
  if micro < 0 || 999999 < micro then .error .micro
  return ⟨date, hour.toNat, minute.toNat, second.toNat, micro.toNat, offset⟩

/-- The text of an instant in device logs, which is there within the calendar only. -/
def Instant.text? (t : Instant) : Except TimeError String :=
  if t.inRange then .ok t.text else .error .outOfRange

/-- The text of a reading on a clock in some place. -/
def LocalTime.text? (t : LocalTime) : Except TimeError String :=
  t.instant.text?

/-- The date, as `2025-01-01`. -/
def Date.text (d : Date) : String :=
  Instant.padded 4 d.year ++ "-" ++ Instant.padded 2 d.month ++ "-" ++ Instant.padded 2 d.day

/-- The time of day, with microseconds where there are some. -/
def LocalTime.clockText (t : LocalTime) : String :=
  Instant.padded 2 t.hour ++ ":" ++ Instant.padded 2 t.minute ++ ":" ++
    Instant.padded 2 t.second ++ (if t.micro = 0 then "" else "." ++ Instant.padded 6 t.micro)

/-- How far a place is ahead of universal time, as `+01:00`. -/
def offsetText (offset : Int) : String :=
  let size := offset.natAbs
  (if offset < 0 then "-" else "+") ++ Instant.padded 2 (size / 3600) ++ ":" ++
    Instant.padded 2 (size / 60 % 60) ++
    (if size % 60 = 0 then "" else ":" ++ Instant.padded 2 (size % 60))

end LeafSwitch.Time
