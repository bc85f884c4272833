import LeafSwitch.Text.Class

/-!
# Blank characters

Unicode white space, and the two ways text is cut by it: trimming both ends, and taking the words
between. A zero-width space and a byte order mark are not blank.
-/

namespace LeafSwitch.Text

/-- Code point ranges, first and last, of the white space characters. -/
def blankRanges : List (Nat × Nat) :=
  [(0x09, 0x0D), (0x1C, 0x20), (0x85, 0x85), (0xA0, 0xA0), (0x1680, 0x1680), (0x2000, 0x200A),
    (0x2028, 0x2029), (0x202F, 0x202F), (0x205F, 0x205F), (0x3000, 0x3000)]

/-- A blank character lies in one of the white space ranges. -/
def isBlank (c : Char) : Bool :=
  inRanges blankRanges c

/-- Drop the characters satisfying `p` from the end. -/
def dropEndWhile (p : Char → Bool) (cs : List Char) : List Char :=
  (cs.reverse.dropWhile p).reverse

/-- Drop blank characters from both ends. -/
def trim (cs : List Char) : List Char :=
  dropEndWhile isBlank (cs.dropWhile isBlank)

/-- The pieces that lie between the members satisfying `p`, empty ones included. -/
def pieces {α : Type} (p : α → Bool) : List α → List (List α)
  | [] => [[]]
  | c :: cs =>
    match pieces p cs with
    | [] => []
    | piece :: rest => if p c then [] :: piece :: rest else (c :: piece) :: rest

/-- The words of a text are its pieces between blanks that hold something. -/
def words (cs : List Char) : List (List Char) :=
  (pieces isBlank cs).filter fun w => !w.isEmpty

/-- A text without the blanks at its ends. -/
def trimmed (s : String) : String :=
  String.ofList (trim s.toList)

/-- The words of a string, in order. -/
def wordsOf (s : String) : List String :=
  (words s.toList).map String.ofList

end LeafSwitch.Text
