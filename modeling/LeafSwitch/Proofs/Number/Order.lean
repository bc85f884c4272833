import LeafSwitch.Number.Binary64
import Mathlib.Data.EReal.Inv

/-!
# Doubles as numbers

A double stands for a real number or an infinity. Comparing doubles compares what they stand for,
and powers of two are exact up to the end of the range.
-/

namespace LeafSwitch.Number.Binary64

end LeafSwitch.Number.Binary64
