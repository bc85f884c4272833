import LeafSwitch.Text.Class

/-!
# Places in a document

A cursor stands before the rest of a document and knows its line and its column. Between two tokens
it skips spaces, line breaks and comments; a tab is not skipped, so it can start no token.
-/

namespace LeafSwitch.Yaml

/-- The characters that end a line. -/
def isBreak (c : Char) : Bool :=
  c == '\n' || c == '\u0085' || c == '\u2028' || c == '\u2029'

/-- A break as it counts inside text: the two Unicode separators are kept, others are line feeds. -/
def breakText (c : Char) : Char :=
  if c == '\u2028' || c == '\u2029' then c else '\n'

/-- The characters that separate tokens. -/
def isGap (c : Char) : Bool :=
  c == ' ' || c == '\t' || isBreak c

/-- The columns a character takes up; a byte order mark takes none. -/
def columnsOf (c : Char) : Nat :=
  if c == '\ufeff' then 0 else 1

/-- A place in a document. -/
structure Cursor where
  /-- What follows. -/
  rest : List Char
  /-- The characters before, counted from the start of the document. -/
  index : Nat
  /-- The line, from 0. -/
  line : Nat
  /-- The column, from 0. -/
  column : Nat
  deriving Repr

namespace Cursor

/-- The start of a text. -/
def start (text : List Char) : Cursor :=
  match text with
  | '\ufeff' :: rest => ⟨rest, 1, 0, 0⟩
  | _ => ⟨text, 0, 0, 0⟩

/-- The place behind the next character. -/
def next (c : Cursor) : Cursor :=
  match c.rest with
  | [] => c
  | ch :: rest =>
    if isBreak ch then ⟨rest, c.index + 1, c.line + 1, 0⟩
    else ⟨rest, c.index + 1, c.line, c.column + columnsOf ch⟩

/-- The place `n` characters further on. -/
def advance : Nat → Cursor → Cursor
  | 0, c => c
  | n + 1, c => advance n c.next

/-- Skip spaces, breaks and comments; in a comment everything up to the break is skipped. -/
def skipFrom (inComment : Bool) : List Char → Nat → Nat → Nat → Cursor
  | [], index, line, column => ⟨[], index, line, column⟩
  | ch :: rest, index, line, column =>
    if isBreak ch then skipFrom false rest (index + 1) (line + 1) 0
    else if inComment || ch == '#' then
      skipFrom true rest (index + 1) line (column + columnsOf ch)
    else if ch == ' ' then skipFrom false rest (index + 1) line (column + 1)
    else ⟨ch :: rest, index, line, column⟩

/-- The place of the next token. -/
def skip (c : Cursor) : Cursor :=
  skipFrom false c.rest c.index c.line c.column

/-- Whether a gap or the end of the document comes after `n` characters. -/
def gapAfter (n : Nat) (c : Cursor) : Bool :=
  match c.rest.drop n with
  | [] => true
  | ch :: _ => isGap ch

/-- Whether the document goes on with a text that a gap follows. -/
def atMark (mark : String) (c : Cursor) : Bool :=
  mark.toList.isPrefixOf c.rest && c.gapAfter mark.length

/-- Whether a mark between documents stands here, in the first column. -/
def atDocumentMark (c : Cursor) : Bool :=
  c.column == 0 && (c.atMark "---" || c.atMark "...")

end Cursor

end LeafSwitch.Yaml
