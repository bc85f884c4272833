import LeafSwitch.Data.Value
import LeafSwitch.Number.Integer
import LeafSwitch.Number.Shortest
import LeafSwitch.Text.Quoted

/-!
# Values in messages

How values are shown inside messages and perf lines: texts quoted, doubles by their shortest digits,
sequences and mappings in brackets. A whole number with too many digits is not shown, and neither is
what lies too deep in sequences and mappings.
-/

namespace LeafSwitch

/-- Why a value is not shown. -/
inductive ShowError where
  /-- A whole number has too many digits. -/
  | tooLong
  /-- Sequences and mappings lie too deep in each other. -/
  | tooDeep
  deriving DecidableEq, Repr

/-- The wording of a failure. -/
def ShowError.message : ShowError → String
  | .tooLong =>
    "Exceeds the limit (4300 digits) for integer string conversion; " ++
      "use sys.set_int_max_str_digits() to increase the limit"
  | .tooDeep => "maximum recursion depth exceeded while getting the repr of an object"

namespace Value

/-- Doubles are positional from `0.0001` up to below `10 ^ 16`, and exponents have two digits. -/
def floatStyle : Number.DecimalStyle := ⟨-4, 16, 2⟩

/-- The least whole number, apart from its sign, that has too many digits to be shown. -/
def shownLimit : Nat := Nat.pow 10 Number.maxDigits

/-- A whole number as text. -/
def wholeText (n : Int) : Except ShowError String :=
  if n.natAbs < shownLimit then .ok (toString n) else .error .tooLong

mutual

/-- How a value is shown inside a message, where `room` tells how deep a call may still go. -/
def shown : (room : Nat) → Value → Except ShowError String
  | 0, _ => .error .tooDeep
  | _ + 1, .null => .ok "None"
  | _ + 1, .bool b => .ok (if b then "True" else "False")
  | _ + 1, .int n => wholeText n
  | _ + 1, .float x => .ok (x.text floatStyle)
  | _ + 1, .str s => .ok (Text.quoted s)
  | room + 1, .list items => do
    let texts ← shownItems room items
    return "[" ++ ", ".intercalate texts ++ "]"
  | room + 1, .map entries => do
    let texts ← shownEntries room entries
    return "\x7b" ++ ", ".intercalate texts ++ "\x7d"
  | _ + 1, .other _ shownText _ _ => .ok shownText

/-- The items of a sequence as they are shown. -/
def shownItems (room : Nat) : List Value → Except ShowError (List String)
  | [] => .ok []
  | v :: vs => do
    let text ← v.shown room
    let texts ← shownItems room vs
    return text :: texts

/-- The entries of a mapping as they are shown. -/
def shownEntries (room : Nat) : List (Value × Value) → Except ShowError (List String)
  | [] => .ok []
  | (k, v) :: rest => do
    let key ← k.shown room
    let text ← v.shown room
    let texts ← shownEntries room rest
    return (key ++ ": " ++ text) :: texts

end

/-- A value as plain text: a text is itself, and nearly anything else as it is shown. -/
def text (room : Nat) : Value → Except ShowError String
  | .str s => .ok s
  | .other _ _ plainText _ => .ok plainText
  | v => v.shown room

end Value

end LeafSwitch
