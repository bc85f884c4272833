import LeafSwitch.Json.Units
import LeafSwitch.Yaml.Cursor
import LeafSwitch.Yaml.Error

/-!
# The text of scalars

Plain text runs up to a key's colon, a comment or, within brackets, a bracket or comma; text in
quotes runs up to its closing quote. Where text goes over several lines it is folded: one line break
counts as a space, and each further one as itself.
-/

namespace LeafSwitch.Yaml

/-- Fold the first break of a gap with the further breaks behind it. -/
def folded (first : Char) (further : List Char) : List Char :=
  if breakText first != '\n' then breakText first :: further
  else if further.isEmpty then [' ']
  else further

/-- Whether a character begins plain text, given what follows it. -/
def startsPlain (inFlow : Bool) : List Char → Bool
  | [] => false
  | ch :: rest =>
    let joined := match rest with
      | [] => false
      | after :: _ => !isGap after
    if isGap ch then false
    else if ch == '-' then joined
    else if ch == '?' || ch == ':' then joined && !inFlow
    else !",[]\x7b\x7d#&*!|>'\"%@`".toList.contains ch

/-- Whether plain text ends before a character, given what follows it. -/
def endsPlain (inFlow : Bool) (ch : Char) (rest : List Char) : Bool :=
  let closesKey := match rest with
    | [] => true
    | after :: _ => isGap after || (inFlow && ",[]\x7b\x7d".toList.contains after)
  isGap ch || (ch == ':' && closesKey) || (inFlow && ",?[]\x7b\x7d".toList.contains ch)

/-- How many characters one line's worth of plain text has, of which `n` are counted. -/
def plainLength (inFlow : Bool) (n : Nat) : List Char → Nat
  | [] => n
  | ch :: rest => if endsPlain inFlow ch rest then n else plainLength inFlow (n + 1) rest

/-- The further breaks of a gap in plain text, spaces between them left out, and the place behind
them; `none` where a document mark begins a line. -/
def plainBreaks : List Char → Nat → Nat → Nat → Option (List Char) × Cursor
  | [], index, line, column => (some [], ⟨[], index, line, column⟩)
  | ch :: rest, index, line, column =>
    if ch == ' ' then plainBreaks rest (index + 1) line (column + 1)
    else if isBreak ch then
      let next : Cursor := ⟨rest, index + 1, line + 1, 0⟩
      if next.atDocumentMark then (none, next)
      else
        let (further, after) := plainBreaks rest (index + 1) (line + 1) 0
        (further.map (breakText ch :: ·), after)
    else (some [], ⟨ch :: rest, index, line, column⟩)

/-- The gap between two runs of plain text, folded; it is empty where the text ends. -/
def plainGap (c : Cursor) : List Char × Cursor :=
  let spaces := c.rest.takeWhile (· == ' ')
  let after := c.advance spaces.length
  match after.rest with
  | ch :: _ =>
    if isBreak ch then
      let next := after.next
      if next.atDocumentMark then ([], next)
      else
        match plainBreaks next.rest next.index next.line next.column with
        | (some further, place) => (folded ch further, place)
        | (none, place) => ([], place)
    else (spaces, after)
  | [] => (spaces, after)

/-- What is read of a scalar. -/
structure Scanned where
  /-- The text. -/
  text : String
  /-- The place behind it. -/
  place : Cursor
  /-- Whether a line break lies between the text and that place. -/
  broken : Bool

/-- Plain text with what follows up to the next token, where `before` holds the pieces so far, the
last first; outside brackets a further line must start at column `least` or behind it. -/
def plainText (inFlow : Bool) (least : Nat) (before : List (List Char)) :
    Nat → Cursor → List (List Char) × Cursor × Bool
  | 0, c => (before, c, false)
  | fuel + 1, c =>
    let after := c.advance (plainLength inFlow 0 c.rest)
    let before := c.rest.take (plainLength inFlow 0 c.rest) :: before
    let (gap, place) := plainGap after
    let goesOn := place.rest.head? != some '#' && plainLength inFlow 0 place.rest != 0 &&
      (inFlow || least ≤ place.column)
    if gap.isEmpty || !goesOn then (before, place, place.line != after.line)
    else plainText inFlow least (gap :: before) fuel place

/-- Plain text that begins at a place; `bound` is more than the characters that follow. -/
def readPlain (bound : Nat) (inFlow : Bool) (least : Nat) (c : Cursor) : Scanned :=
  let (pieces, place, broken) := plainText inFlow least [] bound c
  ⟨Text.ofChars pieces.reverse.flatten, place, broken⟩

/-- The breaks inside quotes, with the blanks around them left out, and the place behind them; a
document mark must not begin a line there. -/
def quotedBreaks : List Char → Nat → Nat → Nat → Except LoadError (List Char × Cursor)
  | [], index, line, column => .ok ([], ⟨[], index, line, column⟩)
  | ch :: rest, index, line, column =>
    let here : Cursor := ⟨ch :: rest, index, line, column⟩
    if here.atDocumentMark then .error .malformed
    else if ch == ' ' || ch == '\t' then quotedBreaks rest (index + 1) line (column + 1)
    else if isBreak ch then do
      let (further, after) ← quotedBreaks rest (index + 1) (line + 1) 0
      return (breakText ch :: further, after)
    else .ok ([], here)

/-- The breaks inside quotes from a place on. -/
def quotedBreaksAt (c : Cursor) : Except LoadError (List Char × Cursor) :=
  quotedBreaks c.rest c.index c.line c.column

/-- What an escape of one letter stands for. -/
def escapeOf? (ch : Char) : Option Char :=
  let table : List (Char × Char) :=
    [('0', '\x00'), ('a', '\x07'), ('b', '\x08'), ('t', '\t'), ('\t', '\t'), ('n', '\n'),
      ('v', '\x0b'), ('f', '\x0c'), ('r', '\r'), ('e', '\x1b'), (' ', ' '), ('"', '"'),
      ('\\', '\\'), ('/', '/'), ('N', '\u0085'), ('_', '\u00a0'), ('L', '\u2028'), ('P', '\u2029')]
  (table.find? fun (letter, _) => letter == ch).map (·.2)

/-- How many hexadecimal digits follow an escape letter. -/
def escapeWidth? (ch : Char) : Option Nat :=
  if ch == 'x' then some 2
  else if ch == 'u' then some 4
  else if ch == 'U' then some 8
  else none

/-- What is kept for a code that an escape names. -/
def namedCode (code : Nat) : Except LoadError (List Char) :=
  if code > 0x7FFFFFFF then .error .noCode
  else if code ≥ 0x110000 then .error .noCharacter
  else .ok (Text.kept code)

/-- What an escape stands for, and the place behind it; the cursor stands behind the backslash. -/
def escape (c : Cursor) : Except LoadError (List Char × Cursor) :=
  match c.rest with
  | [] => .error .malformed
  | ch :: rest =>
    match escapeOf? ch, escapeWidth? ch with
    | some image, _ => .ok ([image], c.next)
    | none, some width =>
      let digits := rest.take width
      match if digits.length < width then none else Json.hexNumber? digits with
      | none => .error .malformed
      | some code => (namedCode code).map fun image => (image, c.advance (width + 1))
    | none, none =>
      if isBreak ch then quotedBreaksAt c.next else .error .malformed

/-- The blanks and breaks inside quotes, folded, and the place behind them. -/
def quotedGap (c : Cursor) : Except LoadError (List Char × Cursor) :=
  let blanks := c.rest.takeWhile fun ch => ch == ' ' || ch == '\t'
  let after := c.advance blanks.length
  match after.rest with
  | [] => .error .malformed
  | ch :: _ =>
    if isBreak ch then do
      let (further, place) ← quotedBreaksAt after.next
      return (folded ch further, place)
    else .ok (blanks, after)

/-- Text in quotes up to the closing quote, where `before` holds the pieces so far, the last first,
and the place behind that. -/
def quotedText (quote : Char) (before : List (List Char)) :
    Nat → Cursor → Except LoadError (List (List Char) × Cursor)
  | 0, _ => .error .malformed
  | fuel + 1, c =>
    match c.rest with
    | [] => .error .malformed
    | ch :: rest =>
      if ch == quote && !(quote == '\'' && rest.head? == some '\'') then .ok (before, c.next)
      else do
        let (piece, after) ←
          if isGap ch then quotedGap c
          else if ch == '\\' && quote == '"' then escape c.next
          else if ch == quote then .ok ([ch], c.advance 2)
          else .ok (Text.kept ch.toNat, c.next)
        quotedText quote (piece :: before) fuel after

/-- Text in quotes; the cursor stands before the opening quote, and `bound` is more than the
characters that follow. -/
def readQuoted (bound : Nat) (quote : Char) (c : Cursor) : Except LoadError Scanned := do
  let (pieces, place) ← quotedText quote [] bound c.next
  return ⟨String.ofList pieces.reverse.flatten, place, false⟩

end LeafSwitch.Yaml
