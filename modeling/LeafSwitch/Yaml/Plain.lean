import LeafSwitch.Yaml.Moment

/-!
# What plain text stands for

Plain text is a truth value, nothing, a number, a date or itself. Whole numbers may be binary,
octal, hexadecimal, decimal or in groups to base sixty, with underscores anywhere among their
digits; doubles need a point, and the sign of their exponent.
-/

namespace LeafSwitch.Yaml

open Number (Binary64)

/-- The words for truth values and for nothing. -/
def words : List (String × Value) :=
  (["yes", "Yes", "YES", "true", "True", "TRUE", "on", "On", "ON"].map (·, .bool true)) ++
    (["no", "No", "NO", "false", "False", "FALSE", "off", "Off", "OFF"].map (·, .bool false)) ++
    (["", "~", "null", "Null", "NULL"].map (·, .null))

/-- The value of an ASCII digit in a base up to sixteen. -/
def digitIn? (base : Nat) (c : Char) : Option Nat :=
  let n := c.toNat
  let value := if n ≤ 0x39 then n - 0x30 else if n ≤ 0x46 then n - 0x37 else n - 0x57
  let isDigit := (0x30 ≤ n && n ≤ 0x39) || (0x41 ≤ n && n ≤ 0x46) || (0x61 ≤ n && n ≤ 0x66)
  if isDigit && value < base then some value else none

/-- Whether a text is made of digits of a base and underscores. -/
def isDigits (base : Nat) (cs : List Char) : Bool :=
  cs.all fun c => c == '_' || (digitIn? base c).isSome

/-- Whether a text has such digits, and has any characters. -/
def isNumeral (base : Nat) (cs : List Char) : Bool :=
  !cs.isEmpty && isDigits base cs

/-- Whether a text begins with a decimal digit and goes on with digits and underscores. -/
def isDecimal (cs : List Char) : Bool :=
  isDigits 10 cs && ((cs.head?.bind (digitIn? 10)).isSome)

/-- The number that the digits of a text write in a base. -/
def numeral (base : Nat) (cs : List Char) : Nat :=
  (cs.filterMap (digitIn? base)).foldl (fun value d => base * value + d) 0

/-- Whether a text is a group to base sixty: up to two digits, of which the first of two is below
six. -/
def isSixtieth : List Char → Bool
  | [a] => (digitIn? 10 a).isSome
  | [a, b] => (digitIn? 6 a).isSome && (digitIn? 10 b).isSome
  | _ => false

/-- The number that groups denote to base sixty. -/
def inSixties (groups : List Nat) : Nat :=
  groups.foldl (fun value group => 60 * value + group) 0

/-- A decimal numeral, unless it has too many digits. -/
def decimalNumeral (cs : List Char) : Except LoadError Nat :=
  let digits := (cs.filterMap (digitIn? 10)).length
  if digits > Number.maxDigits then .error (.tooLong digits) else .ok (numeral 10 cs)

/-- A numeral in a base that a mark announces; underscores alone are no number. -/
def markedNumeral (base : Nat) (cs : List Char) : Except LoadError Nat :=
  if cs.all (· == '_') then .error (.noDigits base) else .ok (numeral base cs)

/-- The magnitude of a whole number, where a text without its sign is one. -/
def magnitude? (body : List Char) : Option (Except LoadError Nat) :=
  match body with
  | ['0'] => some (.ok 0)
  | '0' :: 'b' :: rest => if isNumeral 2 rest then some (markedNumeral 2 rest) else none
  | '0' :: 'x' :: rest => if isNumeral 16 rest then some (markedNumeral 16 rest) else none
  | '0' :: rest => if isNumeral 8 rest then some (.ok (numeral 8 rest)) else none
  | _ =>
    match Text.pieces (· == ':') body with
    | [] => none
    | [digits] => if isDecimal digits then some (decimalNumeral digits) else none
    | first :: groups =>
      if isDecimal first && groups.all isSixtieth then
        some ((decimalNumeral first).map fun high => inSixties (high :: groups.map (numeral 10)))
      else none

/-- The exponent at the end of a double, where the text is one: a mark, a sign and digits. -/
def exponent? : List Char → Option Int
  | [] => some 0
  | mark :: sign :: digits =>
    let size : Int := numeral 10 digits
    if (mark == 'e' || mark == 'E') && (sign == '+' || sign == '-') && !digits.isEmpty &&
        digits.all fun c => (digitIn? 10 c).isSome then
      some (if sign == '-' then -size else size)
    else none
  | _ => none

/-- The double that digits before and behind a point write. -/
def pointed (whole part : List Char) (power : Int) : Binary64 :=
  let places := (part.filterMap (digitIn? 10)).length
  .ofDecimal false (numeral 10 (whole ++ part)) (power - places)

/-- The double whose groups to base sixty are given from the least, where `unit` is the weight of
the first; each weight must be within the doubles. -/
def sumSixties (unit : Nat) : List Binary64 → Binary64 → Except LoadError Binary64
  | [], total => .ok total
  | group :: groups, total =>
    match Binary64.ofInt unit with
    | .infinite _ => .error .weight
    | weight => sumSixties (60 * unit) groups (.add total (.mul group weight))

/-- The double that groups with a fraction in the last denote to base sixty. -/
def sixtiesReal (groups : List (List Char)) (last part : List Char) : Except LoadError Binary64 :=
  sumSixties 1 (pointed last part 0 :: groups.reverse.map fun g => pointed g [] 0)
    (.zero false)

/-- The words for infinity and for what is not a number, behind their point. -/
def isInfinity (cs : List Char) : Bool :=
  ["inf", "Inf", "INF"].contains (String.ofList cs)

/-- The magnitude of a double, where a text without its sign is one; without a digit before the
point a number takes no sign. -/
def realMagnitude? (hasSign : Bool) (body : List Char) : Option (Except LoadError Binary64) :=
  let whole := body.takeWhile (· != '.')
  match body.dropWhile (· != '.') with
  | [] => none
  | _ :: tail =>
    let part := tail.takeWhile fun c => c == '_' || (digitIn? 10 c).isSome
    let rest := tail.drop part.length
    let number (digits : List Char) := (exponent? rest).map fun power =>
      Except.ok (pointed digits part power)
    if whole.isEmpty then
      if isInfinity tail then some (.ok (.infinite false))
      else if hasSign then none
      else if ["nan", "NaN", "NAN"].contains (String.ofList tail) then some (.ok .nan)
      else if isDecimal part then number [] else none
    else
      match Text.pieces (· == ':') whole with
      | [digits] => if isDecimal digits then number digits else none
      | first :: groups =>
        if isDecimal first && groups.all isSixtieth && rest.isEmpty then
          some (sixtiesReal (first :: groups.dropLast) (groups.getLast?.getD []) part)
        else none
      | [] => none

/-- The texts that stand for nothing but themselves in special places. -/
def reservedTexts : List String := ["=", "<<"]

/-- The value that plain text stands for. -/
def plainValue (text : String) : Except LoadError Value :=
  match words.find? fun (word, _) => word == text with
  | some (_, v) => .ok v
  | none =>
    let cs := text.toList
    let (negative, body) := Number.takeSign cs
    match magnitude? body, realMagnitude? (body.length < cs.length) body with
    | some size, _ => size.map fun (n : Nat) => .int (if negative then -(n : Int) else n)
    | none, some size => size.map fun x => .float (if negative then x.neg else x)
    | none, none =>
      if reservedTexts.contains text then .error .malformed
      else (moment? cs).getD (.ok (.str text))

end LeafSwitch.Yaml
