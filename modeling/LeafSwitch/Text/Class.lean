/-!
# Character classes

A class of characters is given by ranges of code points, each held as its first and its last.
-/

namespace LeafSwitch.Text

/-- Whether a code lies in one of the ranges. -/
def holds (ranges : List (Nat × Nat)) (n : Nat) : Bool :=
  ranges.any fun (first, last) => first ≤ n && n ≤ last

/-- Whether a character lies in one of the ranges. -/
def inRanges (ranges : List (Nat × Nat)) (c : Char) : Bool :=
  holds ranges c.toNat

end LeafSwitch.Text
