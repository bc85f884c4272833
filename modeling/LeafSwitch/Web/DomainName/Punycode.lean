import LeafSwitch.Number.Digit

/-!
# Differences in ASCII

A label with characters beyond ASCII is written as its ASCII characters, a hyphen, and digits in
base 36 for the others, in ascending order: each is a difference, in codes and places, from the one
before. The digits of a difference come least first, and a digit below a bound ends it; the bound
follows a bias that adapts to the size of the differences. A label is given by codes, and what is
written by characters.
-/

namespace LeafSwitch.DomainName

/-- A digit in base 36. -/
def digit36 (n : Nat) : Char :=
  if n < 26 then Char.ofNat (0x61 + n) else Char.ofNat (0x30 + n - 26)

/-- The value of a digit in base 36. -/
def digitValue? (c : Char) : Option Nat :=
  if 'a' ≤ c && c ≤ 'z' then some (c.toNat - 0x61)
  else if 'A' ≤ c && c ≤ 'Z' then some (c.toNat - 0x41)
  else if '0' ≤ c && c ≤ '9' then some (c.toNat - 0x30 + 26)
  else none

/-- The value below which the digit of a rank is the last one. -/
def lastBelow (rank bias : Nat) : Nat :=
  if rank ≤ bias then 1 else min 26 (rank - bias)

/-- The rank of the first digit of a difference; the others are as far apart. -/
def firstRank : Nat := 36

/-- The bias of the first difference. -/
def firstBias : Nat := 72

/-- The bias after a difference, of which 35ths are taken until it is small. -/
def settledBias : Nat → Nat → Nat → Nat
  | 0, delta, ranks => ranks + 36 * delta / (delta + 38)
  | fuel + 1, delta, ranks =>
    if 455 < delta then settledBias fuel (delta / 35) (ranks + 36)
    else ranks + 36 * delta / (delta + 38)

/-- The bias after a difference, where the text has `length` characters by then. -/
def nextBias (delta length : Nat) (isFirst : Bool) : Nat :=
  let delta := if isFirst then delta / 700 else delta / 2
  settledBias delta (delta + delta / length) 0

/-! ### Writing -/

/-- The digits of a difference, the least first. -/
def differenceDigits (bias : Nat) : Nat → Nat → Nat → List Char
  | 0, _, _ => []
  | fuel + 1, rank, n =>
    let bound := lastBelow rank bias
    if n < bound then [digit36 n]
    else
      digit36 (bound + (n - bound) % (36 - bound)) ::
        differenceDigits bias fuel (rank + 36) ((n - bound) / (36 - bound))

/-- Where the writing of characters beyond ASCII stands. -/
structure Writing where
  /-- The difference since the last character written. -/
  delta : Nat
  /-- The bias of the next difference. -/
  bias : Nat
  /-- How many characters of the label are written. -/
  written : Nat
  /-- Whether none beyond ASCII is. -/
  isFirst : Bool
  /-- The digits so far. -/
  digits : List Char

/-- Go over a label for one of its codes: codes below it count, and it is written wherever it
stands. -/
def Writing.pass (n : Nat) (w : Writing) (m : Nat) : Writing :=
  if m < n then { w with delta := w.delta + 1 }
  else if m = n then
    { delta := 0
      bias := nextBias w.delta (w.written + 1) w.isFirst
      written := w.written + 1
      isFirst := false
      digits := w.digits ++ differenceDigits w.bias (w.delta + 1) firstRank w.delta }
  else w

/-- Write the codes beyond ASCII of a label, of which `above` are to come, in ascending order; all
below `n` are written. -/
def writeAbove (label : List Nat) : List Nat → Nat → Writing → Writing
  | [], _, w => w
  | m :: above, n, w =>
    let w := { w with delta := w.delta + (m - n) * (w.written + 1) }
    let w := label.foldl (Writing.pass m) w
    writeAbove label above (m + 1) { w with delta := w.delta + 1 }

/-- A number put into an ascending list without repetition. -/
def insertOnce (n : Nat) : List Nat → List Nat
  | [] => [n]
  | m :: rest => if n < m then n :: m :: rest else if n = m then m :: rest
    else m :: insertOnce n rest

/-- A label in ASCII. -/
def writeDifferences (label : List Nat) : List Char :=
  let plain := (label.filter (· < 0x80)).map Char.ofNat
  let above := (label.filter (0x80 ≤ ·)).foldr insertOnce []
  let w := writeAbove label above 0x80 ⟨0, firstBias, plain.length, true, []⟩
  plain ++ (if plain.isEmpty then [] else ['-']) ++ w.digits

/-! ### Reading -/

/-- Where the reading of differences stands. -/
structure Reading where
  /-- The last code put in. -/
  code : Nat
  /-- The codes before the place behind it, the last first. -/
  before : List Nat
  /-- The codes behind that place. -/
  after : List Nat
  /-- How many codes are before that place. -/
  place : Nat
  /-- How many codes there are. -/
  length : Nat
  /-- The bias of the difference. -/
  bias : Nat
  /-- Whether no code is put in. -/
  isFirst : Bool
  /-- The difference as far as its digits are read. -/
  delta : Nat
  /-- The weight of the next digit. -/
  weight : Nat
  /-- The rank of the next digit. -/
  rank : Nat

namespace Reading

/-- Where reading begins, with the codes that are taken as they are. -/
def start (plain : List Nat) : Reading :=
  { code := 0x80, before := [], after := plain, place := 0, length := plain.length,
    bias := firstBias, isFirst := true, delta := 0, weight := 1, rank := firstRank }

/-- Move to another place. -/
def moveTo (place : Nat) (r : Reading) : Reading :=
  if r.place ≤ place then
    let passed := r.after.take (place - r.place)
    { r with place, before := passed.reverse ++ r.before, after := r.after.drop passed.length }
  else
    let passed := r.before.take (r.place - place)
    { r with place, before := r.before.drop passed.length, after := passed.reverse ++ r.after }

/-- Put in the code that a difference leads to; there is none behind the last code point. -/
def put (r : Reading) (delta : Nat) : Option Reading :=
  let length := r.length + 1
  let code := r.code + (r.place + delta) / length
  if code < 0x110000 then
    let r := r.moveTo ((r.place + delta) % length)
    some {
      code
      before := code :: r.before
      after := r.after
      place := r.place + 1
      length
      bias := nextBias delta length r.isFirst
      isFirst := false
      delta := 0
      weight := 1
      rank := firstRank }
  else none

/-- Take a digit. -/
def take (r : Reading) (c : Char) : Option Reading := do
  let digit ← digitValue? c
  let delta := r.delta + digit * r.weight
  let bound := lastBelow r.rank r.bias
  if digit < bound then r.put delta
  else return { r with delta, weight := r.weight * (36 - bound), rank := r.rank + 36 }

/-- The codes so far. -/
def codes (r : Reading) : List Nat :=
  r.before.reverse ++ r.after

end Reading

/-- Read a label in ASCII; what stands before its last hyphen is taken as it is. -/
def readDifferences? (cs : List Char) : Option (List Nat) := do
  let digits := (cs.reverse.takeWhile (· != '-')).reverse
  let plain := cs.take (cs.length - digits.length - 1)
  let r ← digits.foldlM Reading.take (.start (plain.map Char.toNat))
  if r.rank = firstRank then some r.codes else none

end LeafSwitch.DomainName
