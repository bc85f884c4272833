import LeafSwitch.Text.Blank

/-!
# Times in text

A time of day is written by its hour, minutes and seconds, with a fraction or without, and the
distance of a place from universal time behind a sign.
-/

namespace LeafSwitch.Time

/-- Whether a character is an ASCII digit. -/
def isPlainDigit (c : Char) : Bool :=
  '0' ≤ c && c ≤ '9'

/-- The number that ASCII digits write. -/
def digitsNumber (cs : List Char) : Nat :=
  cs.foldl (fun n c => 10 * n + (c.toNat - 0x30)) 0

/-- The number of a text of so many digits. -/
def digitsOf? (least most : Nat) (cs : List Char) : Option Nat :=
  if least ≤ cs.length && cs.length ≤ most && cs.all isPlainDigit then some (digitsNumber cs)
  else none

/-- A time of day, with the microseconds of its fraction. -/
structure DayTime where
  /-- The hour. -/
  hour : Nat
  /-- The minute. -/
  minute : Nat
  /-- The second. -/
  second : Nat
  /-- The microsecond. -/
  micro : Nat

/-- The microseconds that the digits of a fraction write; further digits do not count. -/
def fractionMicros (digits : List Char) : Nat :=
  digitsNumber ((digits ++ List.replicate 6 '0').take 6)

/-- A time of day: hour, minutes and seconds, and perhaps a fraction. -/
def dayTime? (cs : List Char) : Option DayTime :=
  match Text.pieces (· == ':') cs with
  | [h, m, s] => do
    let hour ← digitsOf? 1 2 h
    let minute ← digitsOf? 2 2 m
    let second ← digitsOf? 2 2 (s.take 2)
    match s.drop 2 with
    | [] => some ⟨hour, minute, second, 0⟩
    | '.' :: fraction =>
      if fraction.all isPlainDigit then some ⟨hour, minute, second, fractionMicros fraction⟩
      else none
    | _ => none
  | _ => none

/-- The seconds by which a place is ahead, behind a sign. -/
def zone? (cs : List Char) : Option Int :=
  match Text.pieces (· == ':') cs with
  | [h] => (digitsOf? 1 2 h).map fun n => (n * 3600 : Nat)
  | [h, m] => do
    let hours ← digitsOf? 1 2 h
    let minutes ← digitsOf? 2 2 m
    return (hours * 3600 + minutes * 60 : Nat)
  | _ => none

/-- A time of day with what may follow it: nothing, a `Z`, or a distance from universal time. -/
def dayTimeAndZone? (cs : List Char) : Option (DayTime × Option Int) :=
  let clock := cs.takeWhile fun c => isPlainDigit c || c == ':' || c == '.'
  let rest := (cs.drop clock.length).dropWhile fun c => c == ' ' || c == '\t'
  match dayTime? clock, rest with
  | some t, [] => if clock.length = cs.length then some (t, none) else none
  | some t, ['Z'] => some (t, some 0)
  | some t, '+' :: zone => (zone? zone).map fun n => (t, some n)
  | some t, '-' :: zone => (zone? zone).map fun n => (t, some (-n))
  | _, _ => none

end LeafSwitch.Time
