/-!
# Lines

Two notions of line. A configuration block is cut at line feeds alone; text for display is cut at
every line boundary character, a carriage return and the line feed after it counting as one.
-/

namespace LeafSwitch.Text

/-- A line boundary is a feed, a return, a separator control, or a Unicode separator. -/
def isLineBoundary (c : Char) : Bool :=
  c == '\n' || c == '\x0b' || c == '\x0c' || c == '\r' || c == '\x1c' || c == '\x1d' ||
    c == '\x1e' || c == '\u0085' || c == '\u2028' || c == '\u2029'

/-- The lines of a text for display; a boundary at the very end starts no further line. -/
def lines : List Char → List (List Char)
  | [] => []
  | '\r' :: '\n' :: cs => [] :: lines cs
  | c :: cs =>
    if isLineBoundary c then [] :: lines cs
    else
      match lines cs with
      | [] => [[c]]
      | line :: rest => (c :: line) :: rest

/-- The display lines of a string, in order. -/
def linesOf (s : String) : List String :=
  (lines s.toList).map String.ofList

/-- Read every return, and every return with its line feed, as one line feed. -/
def unifyNewlines : List Char → List Char
  | [] => []
  | '\r' :: '\n' :: cs => '\n' :: unifyNewlines cs
  | c :: cs => (if c == '\r' then '\n' else c) :: unifyNewlines cs

end LeafSwitch.Text
