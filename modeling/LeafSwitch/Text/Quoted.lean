import LeafSwitch.Text.Code
import LeafSwitch.Text.Printable

/-!
# Quoted text

How a text is shown inside a message: between quotes, with escapes for what cannot be seen. Single
quotes are used unless the text holds single quotes and no double ones.
-/

namespace LeafSwitch.Text

/-- One hexadecimal digit, in small letters. -/
def hexDigit (n : Nat) : Char :=
  if n < 10 then Char.ofNat (0x30 + n) else Char.ofNat (0x57 + n)

/-- The low `width` hexadecimal digits of a number. -/
def hexDigits (width n : Nat) : List Char :=
  (List.range width).reverse.map fun i => hexDigit (n / Nat.pow 16 i % 16)

/-- A number as an escape of the least width that holds it. -/
def escapedCode (n : Nat) : List Char :=
  if n ≤ 0xFF then '\\' :: 'x' :: hexDigits 2 n
  else if n ≤ 0xFFFF then '\\' :: 'u' :: hexDigits 4 n
  else '\\' :: 'U' :: hexDigits 8 n

/-- One code of a quoted text, where `quote` is the mark around it. -/
def quoteCode (quote : Char) (n : Nat) : List Char :=
  let c := Char.ofNat n
  if c == quote || c == '\\' then ['\\', c]
  else if c == '\t' then ['\\', 't']
  else if c == '\n' then ['\\', 'n']
  else if c == '\r' then ['\\', 'r']
  else if 0x20 ≤ n && n < 0x7F then [c]
  else if 0x7F < n && !isHalf n && isPrintable c then [c]
  else escapedCode n

/-- The mark that quotes a text. -/
def quoteMark (cs : List Char) : Char :=
  if cs.contains '\'' && !cs.contains '"' then '"' else '\''

/-- A text between quotes. -/
def quoted (s : String) : String :=
  let quote := quoteMark s.toList
  String.ofList (quote :: (codesOf s).flatMap (quoteCode quote) ++ [quote])

/-- Texts between quotes, in brackets. -/
def quotedList (ss : List String) : String :=
  "[" ++ ", ".intercalate (ss.map quoted) ++ "]"

/-- A text between quotes, or the word for none. -/
def quotedOption : Option String → String
  | none => "None"
  | some s => quoted s

end LeafSwitch.Text
