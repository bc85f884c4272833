import LeafSwitch.Number.Integer
import LeafSwitch.Time.Reading

/-!
# Failures of reading

A document may have a form that is not read. In a document of the right form, a number, a date or an
escape may still stand for nothing.
-/

namespace LeafSwitch.Yaml

/-- Why a document is not read. -/
inductive LoadError where
  /-- The text is not a document of the form that is read. -/
  | malformed
  /-- A whole number has a base but no digits. -/
  | noDigits (base : Nat)
  /-- A whole number has more digits than may be read. -/
  | tooLong (digits : Nat)
  /-- A group of a double has a weight beyond all doubles. -/
  | weight
  /-- An escape names a code point beyond the last one. -/
  | noCharacter
  /-- An escape names a number beyond 31 bits. -/
  | noCode
  /-- A date or a time of day is none. -/
  | time (cause : Time.TimeError)
  /-- Sequences and mappings are nested too deeply. -/
  | tooDeep
  deriving DecidableEq, Repr

/-- The wording of a failure. -/
def LoadError.message : LoadError → String
  | .malformed => "malformed document"
  | .noDigits base => "invalid literal for int() with base " ++ toString base ++ ": ''"
  | .tooLong digits => Number.tooLongMessage digits
  | .weight => "int too large to convert to float"
  | .noCharacter => "chr() arg not in range(0x110000)"
  | .noCode => "Python int too large to convert to C int"
  | .time cause => cause.message
  | .tooDeep => "maximum recursion depth exceeded"

end LeafSwitch.Yaml
