import LeafSwitch.Data.Shown
import LeafSwitch.Json.Units

/-!
# Writing JSON

One line of printable ASCII: every other character is written as an escape. A comma and a colon are
each followed by one space.
-/

namespace LeafSwitch.Json

/-- One code inside a JSON string. -/
def escapeCode (n : Nat) : List Char :=
  let c := Char.ofNat n
  if c == '"' || c == '\\' then ['\\', c]
  else if c == '\n' then ['\\', 'n']
  else if c == '\r' then ['\\', 'r']
  else if c == '\t' then ['\\', 't']
  else if c == '\x08' then ['\\', 'b']
  else if c == '\x0c' then ['\\', 'f']
  else if 0x20 ≤ n && n < 0x7F then [c]
  else (unitsOf n).flatMap fun unit => '\\' :: 'u' :: Text.hexDigits 4 unit

/-- A text as a JSON string. -/
def renderString (s : String) : String :=
  String.ofList ('"' :: (Text.codesOf s).flatMap escapeCode ++ ['"'])

/-- A double as a JSON number, or the word for one that JSON lacks. -/
def renderFloat : Number.Binary64 → String
  | .nan => "NaN"
  | .infinite negative => if negative then "-Infinity" else "Infinity"
  | x => x.text Value.floatStyle

mutual

/-- A value as JSON. -/
def render : Value → String
  | .null => "null"
  | .bool b => if b then "true" else "false"
  | .int n => toString n
  | .float x => renderFloat x
  | .str s => renderString s
  | .list items => "[" ++ ", ".intercalate (renderItems items) ++ "]"
  | .map entries => "\x7b" ++ ", ".intercalate (renderEntries entries) ++ "\x7d"
  | .other _ _ plainText _ => renderString plainText

/-- The items of a sequence. -/
def renderItems : List Value → List String
  | [] => []
  | v :: vs => render v :: renderItems vs

/-- The entries of a mapping; a key that is no text is written as the text of its value. -/
def renderEntries : List (Value × Value) → List String
  | [] => []
  | (k, v) :: rest =>
    let name := match k with
      | .str s => s
      | _ => render k
    (renderString name ++ ": " ++ render v) :: renderEntries rest

end

end LeafSwitch.Json
