import LeafSwitch.Number.Binary64
import LeafSwitch.Number.Digit

/-!
# Shortest decimal text

A double is written with the fewest decimal digits that read back as the same double, and of two
such texts of one length with the nearer. Where the point goes is up to a style.
-/

namespace LeafSwitch.Number

/-- A decimal `digits * 10 ^ exponent`. -/
structure Decimal where
  /-- The digits as a whole number. -/
  digits : Nat
  /-- The power of ten. -/
  exponent : Int
  deriving DecidableEq, Repr

/-- How a decimal is laid out. -/
structure DecimalStyle where
  /-- The least power of ten written without an exponent. -/
  positionalFrom : Int
  /-- The least greater power of ten that takes an exponent again. -/
  positionalBelow : Int
  /-- The least number of digits of an exponent. -/
  exponentWidth : Nat
  deriving DecidableEq, Repr

namespace Binary64

/-- A finite magnitude as a quotient of whole numbers. -/
def ratio (mantissa : Nat) (exponent : Int) : Nat × Nat :=
  if exponent ≥ 0 then (mantissa * Nat.pow 2 exponent.toNat, 1)
  else (mantissa, Nat.pow 2 (-exponent).toNat)

/-- The power of ten of the leading decimal digit of `num / den`. -/
def leadingPower (num den : Nat) : Int :=
  if den ≤ num then (decimalLength (num / den) : Int) - 1
  else -(decimalLength ((den + num - 1) / num - 1) : Int)

/-- The whole number of steps `10 ^ power` that fit into `num / den`, and what is left over as a
quotient. -/
def stepsBelow (num den : Nat) (power : Int) : Nat × Nat × Nat :=
  let (n, d) := if power ≥ 0 then (num, den * Nat.pow 10 power.toNat)
    else (num * Nat.pow 10 (-power).toNat, den)
  (n / d, n % d, d)

/-- The decimal of `count` digits that reads back as the given positive double, if there is one: the
nearer of the two grid points around it that do. -/
def decimalOf? (mantissa : Nat) (exponent : Int) (count : Nat) : Option Decimal :=
  let (num, den) := ratio mantissa exponent
  let power := leadingPower num den + 1 - count
  let (below, left, unit) := stepsBelow num den power
  let readsBack (digits : Nat) : Bool :=
    ofDecimal false digits power == .finite false mantissa exponent
  let nearBelow := 2 * left < unit || (2 * left == unit && below % 2 == 0)
  let (first, second) := if nearBelow then (below, below + 1) else (below + 1, below)
  if readsBack first then some ⟨first, power⟩
  else if readsBack second then some ⟨second, power⟩
  else none

/-- The shortest decimal of a positive double; 17 digits always suffice. -/
def shortest (mantissa : Nat) (exponent : Int) : Decimal :=
  (((List.range 17).map (· + 1)).findSome? (decimalOf? mantissa exponent)).getD ⟨0, 0⟩

end Binary64

/-- Digits without the zeros at their end, and the power of ten grown by their number. -/
def Decimal.stripped (d : Decimal) : List Char × Int :=
  let digits := Nat.toDigits 10 d.digits
  let kept := (digits.reverse.dropWhile (· == '0')).reverse
  (kept, d.exponent + (digits.length - kept.length : Nat))

/-- Lay a decimal out in a style. -/
def DecimalStyle.layout (style : DecimalStyle) (d : Decimal) : String :=
  let (digits, exponent) := d.stripped
  let lead := exponent + digits.length - 1
  let zeros (n : Int) := List.replicate n.toNat '0'
  if style.positionalFrom ≤ lead && lead < style.positionalBelow then
    if lead < 0 then String.ofList ('0' :: '.' :: zeros (-lead - 1) ++ digits)
    else if exponent ≥ 0 then String.ofList (digits ++ zeros exponent ++ ['.', '0'])
    else
      let whole := (lead + 1).toNat
      String.ofList (digits.take whole ++ '.' :: digits.drop whole)
  else
    let mantissa := match digits with
      | first :: [] => [first]
      | first :: rest => first :: '.' :: rest
      | [] => []
    let size := Nat.toDigits 10 lead.natAbs
    let mark := if lead < 0 then '-' else '+'
    String.ofList
      (mantissa ++ 'e' :: mark :: List.replicate (style.exponentWidth - size.length) '0' ++ size)

/-- The text of a double in a style. -/
def Binary64.text (style : DecimalStyle) : Binary64 → String
  | .nan => "nan"
  | .infinite negative => if negative then "-inf" else "inf"
  | .finite negative m e =>
    let body := if m = 0 then "0.0" else style.layout (shortest m e)
    if negative then "-" ++ body else body

end LeafSwitch.Number
