import LeafSwitch.Number.Digit
import LeafSwitch.Text.Blank
import LeafSwitch.Text.Layout
import LeafSwitch.Text.Quoted

/-!
# Whole numbers in text

A whole number is an optional sign and decimal digits, with padding allowed on both sides. Numbers
of any size are read as long as they have at most 4300 digits.
-/

namespace LeafSwitch.Number

/-- The most digits a number may have when it is read. -/
def maxDigits : Nat := 4300

/-- Why a text is not read as a whole number. -/
inductive IntegerError where
  /-- The text does not have the form of a whole number. -/
  | malformed (text : String)
  /-- The number has more digits than may be read. -/
  | tooLong (digits : Nat)
  deriving DecidableEq, Repr

/-- The wording of a digit count above the limit. -/
def tooLongMessage (digits : Nat) : String :=
  "Exceeds the limit (4300 digits) for integer string conversion: value has " ++ toString digits ++
    " digits; use sys.set_int_max_str_digits() to increase the limit"

/-- The wording of a failure; a long offending text is shown by its first 200 characters. -/
def IntegerError.message : IntegerError → String
  | .malformed text =>
    "invalid literal for int() with base 10: " ++ Text.cutTo 200 (Text.quoted text)
  | .tooLong digits => tooLongMessage digits

/-- Padding around a number is blank, but no separator control. -/
def isPadding (c : Char) : Bool :=
  Text.isBlank c && !(0x1C ≤ c.toNat && c.toNat ≤ 0x1F)

/-- A text without the padding at its ends. -/
def unpadded (cs : List Char) : List Char :=
  Text.dropEndWhile isPadding (cs.dropWhile isPadding)

/-- The sign a text begins with, where true is a minus, and the rest. -/
def takeSign : List Char → Bool × List Char
  | '-' :: cs => (true, cs)
  | '+' :: cs => (false, cs)
  | cs => (false, cs)

/-- Read a whole number. -/
def readInteger (text : String) : Except IntegerError Int :=
  let (negative, body) := takeSign (unpadded text.toList)
  if !startsWithDigit body then .error (.malformed text)
  else
    match digitRun body with
    | none => .error (.malformed text)
    | some (digits, rest) =>
      if digits.length > maxDigits then .error (.tooLong digits.length)
      else if !rest.isEmpty then .error (.malformed text)
      else
        let magnitude : Int := ofDigits 0 digits
        .ok (if negative then -magnitude else magnitude)

end LeafSwitch.Number
