import LeafSwitch.Data.Value
import LeafSwitch.Number.Integer

/-!
# Values taken for whole numbers

Where a whole number is wanted, truth values count as one and zero, doubles are cut towards zero,
and texts are read.
-/

namespace LeafSwitch

/-- Why a value is not taken for a whole number. -/
inductive WholeError where
  /-- The value is a text that is no whole number. -/
  | unreadable (cause : Number.IntegerError)
  /-- The value is of a kind that stands for no number. -/
  | wrongKind (kind : String)
  /-- The value is the double that is not a number. -/
  | notANumber
  /-- The value is an infinity. -/
  | infinite
  deriving DecidableEq, Repr

/-- The wording of a failure. -/
def WholeError.message : WholeError → String
  | .unreadable cause => cause.message
  | .wrongKind kind =>
    "int() argument must be a string, a bytes-like object or a real number, not '" ++ kind ++ "'"
  | .notANumber => "cannot convert float NaN to integer"
  | .infinite => "cannot convert float infinity to integer"

/-- The whole number a value is taken for. -/
def Value.toWhole : Value → Except WholeError Int
  | .bool b => .ok (if b then 1 else 0)
  | .int n => .ok n
  | .float .nan => .error .notANumber
  | .float (.infinite _) => .error .infinite
  | .float x => .ok (x.truncate?.getD 0)
  | .str s => (Number.readInteger s).mapError .unreadable
  | v => .error (.wrongKind v.kind)

end LeafSwitch
