import LeafSwitch.Data.Value
import LeafSwitch.Number.Reading

/-!
# Values taken for doubles

Where a double is wanted, truth values count as one and zero, whole numbers are rounded, and texts
are read. A whole number beyond all doubles stands for none.
-/

namespace LeafSwitch

open Number (Binary64)

/-- Why a value is not taken for a double. -/
inductive RealError where
  /-- The value is a text that is no number. -/
  | unreadable (cause : Number.RealError)
  /-- The value is of a kind that stands for no number. -/
  | wrongKind (kind : String)
  /-- The value is a whole number beyond all doubles. -/
  | tooLarge
  deriving DecidableEq, Repr

/-- The wording of a failure. -/
def RealError.message : RealError → String
  | .unreadable cause => cause.message
  | .wrongKind kind => "float() argument must be a string or a real number, not '" ++ kind ++ "'"
  | .tooLarge => "int too large to convert to float"

/-- The double a value is taken for. -/
def Value.toReal : Value → Except RealError Binary64
  | .bool b => .ok (.ofInt (if b then 1 else 0))
  | .int n =>
    match Binary64.ofInt n with
    | .infinite _ => .error .tooLarge
    | x => .ok x
  | .float x => .ok x
  | .str s => (Number.readReal s).mapError .unreadable
  | v => .error (.wrongKind v.kind)

end LeafSwitch
