import LeafSwitch.Number.Binary64
import LeafSwitch.Number.Integer

/-!
# Doubles in text

A double is read from a sign, digits with an optional point, and an optional exponent, or from one
of the words for infinity and not-a-number in any mix of case. A magnitude that is too large reads
as an infinity.
-/

namespace LeafSwitch.Number

/-- A text that cannot be read as a double. -/
structure RealError where
  /-- The offending text. -/
  text : String
  deriving DecidableEq, Repr

/-- The wording of a failure. -/
def RealError.message (e : RealError) : String :=
  "could not convert string to float: " ++ Text.quoted e.text

/-- A run of digits that may be missing altogether. -/
def optionalRun (cs : List Char) : Option (List Nat × List Char) :=
  if startsWithDigit cs then digitRun cs else some ([], cs)

/-- The exponent at the end of a number; none at all stands for zero. -/
def readExponent : List Char → Option Int
  | [] => some 0
  | c :: cs =>
    if c == 'e' || c == 'E' then
      let (negative, body) := takeSign cs
      if !startsWithDigit body then none
      else
        match digitRun body with
        | some (digits, []) =>
          let size : Int := ofDigits 0 digits
          some (if negative then -size else size)
        | _ => none
    else none

/-- Read digits, a point and an exponent; at least one digit stands beside the point. -/
def readMagnitude (negative : Bool) (cs : List Char) : Option Binary64 := do
  let (whole, rest) ← optionalRun cs
  let (part, rest) ← match rest with
    | '.' :: more => optionalRun more
    | _ => some ([], rest)
  if whole.isEmpty && part.isEmpty then none
  let exponent ← readExponent rest
  return .ofDecimal negative (ofDigits (ofDigits 0 whole) part) (exponent - part.length)

/-- The double that a word stands for. -/
def namedReal? (negative : Bool) (cs : List Char) : Option Binary64 :=
  let word := String.ofList (cs.map Char.toLower)
  if word == "inf" || word == "infinity" then some (.infinite negative)
  else if word == "nan" then some .nan
  else none

/-- Read a double. -/
def readReal (text : String) : Except RealError Binary64 :=
  let (negative, body) := takeSign (unpadded text.toList)
  match (namedReal? negative body).orElse fun _ => readMagnitude negative body with
  | some x => .ok x
  | none => .error ⟨text⟩

end LeafSwitch.Number
