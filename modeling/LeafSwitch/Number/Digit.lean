/-!
# Decimal digits

Unicode holds many sets of ten decimal digits, each running upwards from its own zero. A numeral may
use any of them, and may group its digits by single underscores.
-/

namespace LeafSwitch.Number

/-- The code points of the characters that stand for zero. -/
def zeros : List Nat :=
  [0x30, 0x660, 0x6F0, 0x7C0, 0x966, 0x9E6, 0xA66, 0xAE6, 0xB66, 0xBE6, 0xC66, 0xCE6, 0xD66,
    0xDE6, 0xE50, 0xED0, 0xF20, 0x1040, 0x1090, 0x17E0, 0x1810, 0x1946, 0x19D0, 0x1A80, 0x1A90,
    0x1B50, 0x1BB0, 0x1C40, 0x1C50, 0xA620, 0xA8D0, 0xA900, 0xA9D0, 0xA9F0, 0xAA50, 0xABF0,
    0xFF10, 0x104A0, 0x10D30, 0x11066, 0x110F0, 0x11136, 0x111D0, 0x112F0, 0x11450, 0x114D0,
    0x11650, 0x116C0, 0x11730, 0x118E0, 0x11950, 0x11C50, 0x11D50, 0x11DA0, 0x16A60, 0x16AC0,
    0x16B50, 0x1D7CE, 0x1D7D8, 0x1D7E2, 0x1D7EC, 0x1D7F6, 0x1E140, 0x1E2F0, 0x1E950, 0x1FBF0]

/-- The digit a character stands for, if it stands for one. -/
def digit? (c : Char) : Option Nat :=
  (zeros.find? fun z => z ≤ c.toNat && c.toNat < z + 10).map (c.toNat - ·)

/-- Whether a text begins with a digit. -/
def startsWithDigit : List Char → Bool
  | [] => false
  | c :: _ => (digit? c).isSome

/-- The digits a text begins with, and what follows; `none` where an underscore does not stand
between two digits. -/
def digitRun : List Char → Option (List Nat × List Char)
  | [] => some ([], [])
  | c :: cs =>
    match digit? c with
    | some d => (digitRun cs).map fun (ds, rest) => (d :: ds, rest)
    | none =>
      if c == '_' then
        if startsWithDigit cs then digitRun cs else none
      else some ([], c :: cs)

/-- The number that decimal digits, most significant first, denote after `high`. -/
def ofDigits (high : Nat) (digits : List Nat) : Nat :=
  digits.foldl (fun value d => 10 * value + d) high

/-- How many decimal digits write a number; zero takes one. -/
def decimalLength (n : Nat) : Nat :=
  (Nat.toDigits 10 n).length

end LeafSwitch.Number
