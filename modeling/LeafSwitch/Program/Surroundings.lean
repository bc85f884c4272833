import LeafSwitch.Site.State

/-!
# Surroundings

A site in which everything runs evenly: the clock moves by the same step between readings, within
the calendar, and ids are numbers in hexadecimal digits, from 1.
-/

namespace LeafSwitch.Program

open Number (Binary64)
open Time (Instant)

/-- The instant nearest to a number of microseconds that lies within the calendar. -/
def nearestInstant (micros : Int) : Instant :=
  let first := -(Time.epochDay * Time.microsPerDay)
  let last := (Time.endDay - Time.epochDay) * Time.microsPerDay - 1
  ⟨max first (min micros last)⟩

theorem nearestInstant_inRange (micros : Int) : (nearestInstant micros).inRange = true := by
  have hfirst : (0 : Int) ≤ Time.epochDay * Time.microsPerDay := by decide
  have hlast : (0 : Int) < Time.endDay * Time.microsPerDay := by decide
  rw [Instant.inRange, Bool.and_eq_true, decide_eq_true_eq, decide_eq_true_eq]
  dsimp only [nearestInstant, Instant.sinceYearOne]
  rw [Int.sub_mul]
  omega

/-- A clock that moves by the same step between readings, given in microseconds. -/
def evenClock (start step : Int) : Site.Clock where
  readings n := nearestInstant (start + n * step)
  inRange _ := nearestInstant_inRange _
  taken := 0

/-- The number of an entry in at least 12 hexadecimal digits. -/
def numberedId (n : Nat) : String :=
  let digits := Nat.toDigits 16 (n + 1)
  String.ofList (List.replicate (12 - digits.length) '0' ++ digits)

/-- How deep values may nest in a program that has just been started. -/
def usualNesting : Nesting := ⟨985, 490, 985⟩

/-- A site at the start, where the clock begins at a time in microseconds, and telemetry at a time
in seconds. -/
def surroundings (start step epoch : Int) (env files : List (String × String)) : Site where
  clock := evenClock start step
  ids := numberedId
  entries := 0
  stopwatch n := .ofRatio false n 1024
  timings := 0
  seconds n := .ofInt (epoch + n)
  samples := 0
  env
  homes := []
  nesting := usualNesting
  files := .ofList files
  auditFile := none
  journal := []

end LeafSwitch.Program
