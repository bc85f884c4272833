import LeafSwitch.Number.Binary64

/-!
# Fixed places

Rounding a double to a fixed number of decimal places. The exact value decides, so a tie is a true
half, and it goes to the even digit.
-/

namespace LeafSwitch.Number.Binary64

/-- A finite magnitude in units of `10 ^ -places`, rounded to the nearest. -/
def inPlaces (places mantissa : Nat) (exponent : Int) : Nat :=
  if exponent ≥ 0 then mantissa * Nat.pow 2 exponent.toNat * Nat.pow 10 places
  else divRound (mantissa * Nat.pow 10 places) (Nat.pow 2 (-exponent).toNat)

/-- The double nearest to a number rounded to decimal places. -/
def roundPlaces (places : Nat) : Binary64 → Binary64
  | .finite negative m e => ofDecimal negative (inPlaces places m e) (-(places : Int))
  | x => x

/-- A number written with a fixed number of decimal places, at least one. -/
def fixedText (places : Nat) : Binary64 → String
  | .nan => "nan"
  | .infinite negative => if negative then "-inf" else "inf"
  | .finite negative m e =>
    let digits := Nat.toDigits 10 (inPlaces places m e)
    let padded := List.replicate (places + 1 - digits.length) '0' ++ digits
    let whole := padded.length - places
    let body := padded.take whole ++ '.' :: padded.drop whole
    String.ofList (if negative then '-' :: body else body)

end LeafSwitch.Number.Binary64
