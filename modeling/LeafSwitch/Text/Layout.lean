import LeafSwitch.Text.Code

/-!
# Column layout

Padding counts codes, and a text that is already wide enough is left alone.
-/

namespace LeafSwitch.Text

/-- Spaces, `n` of them. -/
def spaces (n : Nat) : String :=
  String.ofList (List.replicate n ' ')

/-- Fill a text with spaces on its right up to a width. -/
def padRight (width : Nat) (s : String) : String :=
  s ++ spaces (width - size s)

/-- Fill a text with spaces on its left up to a width. -/
def padLeft (width : Nat) (s : String) : String :=
  spaces (width - size s) ++ s

/-- The texts one after another with `separator` between neighbours. -/
def join (separator : String) (texts : List String) : String :=
  separator.intercalate texts

/-- A text up to a width. -/
def cutTo (width : Nat) (s : String) : String :=
  ofCodes ((codesOf s).take width)

end LeafSwitch.Text
