import LeafSwitch.Text.Code

/-!
# UTF-16 units

Escapes name codes by 16-bit units: a code beyond the basic plane takes two of them, a high one and
a low one.
-/

namespace LeafSwitch.Json

/-- The units of a code. -/
def unitsOf (n : Nat) : List Nat :=
  if n < 0x10000 then [n]
  else [0xD800 + (n - 0x10000) / 0x400, 0xDC00 + (n - 0x10000) % 0x400]

/-- The code that two halves make. -/
def joined (high low : Nat) : Nat :=
  0x10000 + (high - 0xD800) * 0x400 + (low - 0xDC00)

/-- The codes that units make: two halves next to each other are joined, and others stay. -/
def codesOfUnits : List Nat → List Nat
  | [] => []
  | [n] => [n]
  | h :: l :: rest =>
    if Text.isHigh h && Text.isLow l then joined h l :: codesOfUnits rest
    else h :: codesOfUnits (l :: rest)

/-- The value of a hexadecimal digit. -/
def hexValue? (c : Char) : Option Nat :=
  let n := c.toNat
  if 0x30 ≤ n && n ≤ 0x39 then some (n - 0x30)
  else if 0x41 ≤ n && n ≤ 0x46 then some (n - 0x37)
  else if 0x61 ≤ n && n ≤ 0x66 then some (n - 0x57)
  else none

/-- The number that hexadecimal digits write. -/
def hexNumber? (digits : List Char) : Option Nat :=
  digits.foldlM (fun value c => (hexValue? c).map (16 * value + ·)) 0

end LeafSwitch.Json
