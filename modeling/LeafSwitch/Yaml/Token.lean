import LeafSwitch.Yaml.Scalar

/-!
# Tokens of a document

Within brackets commas and colons give the structure and layout does not matter. Elsewhere columns
give it: a key or a dash further right than the column in force opens a mapping or a sequence, and
the next token further left closes it. Whether something is a key shows only at its colon, which
must stand on the same line and within 1024 characters; until then it is a candidate, and what comes
of it goes back to where it began.
-/

namespace LeafSwitch.Yaml

/-- A token of a document. -/
inductive Token where
  /-- A sequence begins whose items stand behind dashes. -/
  | beginItems
  /-- A mapping begins whose keys stand in a column. -/
  | beginEntries
  /-- A sequence or a mapping ends that a column holds. -/
  | close
  /-- An opening bracket. -/
  | openBracket
  /-- A closing bracket. -/
  | closeBracket
  /-- An opening brace. -/
  | openBrace
  /-- A closing brace. -/
  | closeBrace
  /-- A dash before an item. -/
  | dash
  /-- A comma. -/
  | comma
  /-- The beginning of a key. -/
  | key
  /-- A colon behind a key. -/
  | colon
  /-- Plain text. -/
  | plain (text : String)
  /-- Text in quotes. -/
  | quoted (text : String)
  /-- The mark that begins a document. -/
  | beginDocument
  /-- The mark that ends a document. -/
  | endDocument
  /-- The end of the text. -/
  | endText
  deriving DecidableEq, Repr

/-- Something that becomes a key if a colon follows it. -/
structure Candidate where
  /-- The brackets it stands in. -/
  depth : Nat
  /-- How many tokens are before it. -/
  number : Nat
  /-- Whether nothing but a key may stand there. -/
  required : Bool
  /-- Where it begins. -/
  start : Cursor

/-- The longest reach of a key, from its first character to its colon. -/
def keyReach : Nat := 1024

/-- A text that is cut into tokens. -/
structure Lexer where
  /-- A number above that of the characters of the text. -/
  bound : Nat
  /-- The place reached. -/
  place : Cursor
  /-- The brackets that are open. -/
  depth : Nat
  /-- The columns in force, the innermost first. -/
  columns : List Nat
  /-- Whether a key may begin here. -/
  opens : Bool
  /-- The candidates, at most one for each depth, the last first. -/
  candidates : List Candidate
  /-- The tokens, the last first. -/
  tokens : List Token
  /-- How many tokens there are. -/
  count : Nat

namespace Lexer

/-- The beginning of a text. -/
def start (text : List Char) : Lexer :=
  ⟨text.length + 1, .start text, 0, [], true, [], [], 0⟩

/-- Put a token at the end. -/
def push (s : Lexer) (t : Token) : Lexer :=
  { s with tokens := t :: s.tokens, count := s.count + 1 }

/-- Put tokens where `number` tokens are before them. -/
def insert (s : Lexer) (number : Nat) (ts : List Token) : Lexer :=
  let behind := s.count - number
  { s with
    tokens := s.tokens.take behind ++ ts.reverse ++ s.tokens.drop behind
    count := s.count + ts.length }

/-- Whether a candidate can no longer become a key. -/
def isStale (s : Lexer) (k : Candidate) : Bool :=
  k.start.line != s.place.line || s.place.index - k.start.index > keyReach

/-- Drop the candidates that can no longer become keys, none of which may be required. -/
def settle (s : Lexer) : Except LoadError Lexer :=
  if s.candidates.any fun k => k.required && s.isStale k then .error .malformed
  else .ok { s with candidates := s.candidates.filter fun k => !s.isStale k }

/-- Drop the candidate within the open brackets, which may not be required. -/
def forget (s : Lexer) : Except LoadError Lexer :=
  if s.candidates.any fun k => k.depth == s.depth && k.required then .error .malformed
  else .ok { s with candidates := s.candidates.filter fun k => k.depth != s.depth }

/-- Make what begins here a candidate if a key may begin here. -/
def nominate (s : Lexer) : Except LoadError Lexer :=
  if s.opens then do
    let required := s.depth == 0 && s.columns.head? == some s.place.column
    let s ← s.forget
    return { s with candidates := ⟨s.depth, s.count, required, s.place⟩ :: s.candidates }
  else .ok s

/-- Close what columns hold that are further right than a column. -/
def closeColumns (column : Nat) : List Nat → Lexer → Lexer
  | [], s => { s with columns := [] }
  | c :: rest, s =>
    if column < c then closeColumns column rest (s.push .close) else { s with columns := c :: rest }

/-- Close all that columns hold. -/
def closeAll (s : Lexer) : Lexer :=
  if s.depth == 0 then
    { s with
      tokens := List.replicate s.columns.length .close ++ s.tokens
      count := s.count + s.columns.length
      columns := [] }
  else s

/-- Whether a column is further right than the one in force. -/
def isFurther (s : Lexer) (column : Nat) : Bool :=
  match s.columns with
  | [] => true
  | c :: _ => c < column

/-- A token of some characters. -/
def take (s : Lexer) (length : Nat) (t : Token) : Lexer :=
  { s.push t with place := s.place.advance length }

/-- A mark between documents. -/
def mark (s : Lexer) (t : Token) : Except LoadError Lexer := do
  return { (← s.closeAll.forget).take 3 t with opens := false }

/-- The end of the text. -/
def finish (s : Lexer) : Except LoadError Lexer := do
  return { (← s.closeAll.forget).push .endText with opens := false, candidates := [] }

/-- An opening bracket or brace. -/
def enter (s : Lexer) (t : Token) : Except LoadError Lexer := do
  return { (← s.nominate).take 1 t with depth := s.depth + 1, opens := true }

/-- A closing bracket or brace; outside of brackets it is out of place. -/
def leave (s : Lexer) (t : Token) : Except LoadError Lexer := do
  if s.depth == 0 then .error .malformed
  return { (← s.forget).take 1 t with depth := s.depth - 1, opens := false }

/-- A comma. -/
def separate (s : Lexer) : Except LoadError Lexer := do
  return { (← s.forget).take 1 .comma with opens := true }

/-- Begin a sequence or a mapping where a token stands further right than the column in force;
outside of brackets such a token may only stand where a key may begin. -/
def indent (s : Lexer) (first : Token) : Except LoadError Lexer :=
  if s.depth != 0 then .ok s
  else if !s.opens then .error .malformed
  else if s.isFurther s.place.column then
    .ok { s.push first with columns := s.place.column :: s.columns }
  else .ok s

/-- A dash before an item. -/
def item (s : Lexer) : Except LoadError Lexer := do
  let s ← (← s.indent .beginItems).forget
  return { s.take 1 .dash with opens := true }

/-- A question mark before a key. -/
def explicitKey (s : Lexer) : Except LoadError Lexer := do
  let s ← (← s.indent .beginEntries).forget
  return { s.take 1 .key with opens := s.depth == 0 }

/-- A colon: it makes the candidate a key if there is one. -/
def value (s : Lexer) : Except LoadError Lexer :=
  match s.candidates.find? fun k => k.depth == s.depth with
  | some k =>
    let s := { s with candidates := s.candidates.filter fun k => k.depth != s.depth }
    let begins := s.depth == 0 && s.isFurther k.start.column
    let columns := if begins then k.start.column :: s.columns else s.columns
    let s := s.insert k.number (if begins then [.beginEntries, .key] else [.key])
    .ok { s.take 1 .colon with columns, opens := false }
  | none => do
    let s ← (← s.indent .beginEntries).forget
    return { s.take 1 .colon with opens := s.depth == 0 }

/-- Text in quotes. -/
def quoted (s : Lexer) (quote : Char) : Except LoadError Lexer := do
  let s ← s.nominate
  let scanned ← readQuoted s.bound quote s.place
  return { s.push (.quoted scanned.text) with place := scanned.place, opens := false }

/-- Plain text; its further lines must stand further right than the column in force. -/
def plain (s : Lexer) : Except LoadError Lexer := do
  let s ← s.nominate
  let least := (s.columns.head?.map (· + 1)).getD 0
  let scanned := readPlain s.bound (s.depth != 0) least s.place
  return { s.push (.plain scanned.text) with place := scanned.place, opens := scanned.broken }

/-- The token that stands at the place. -/
def token (s : Lexer) : Except LoadError Lexer :=
  let inFlow := s.depth != 0
  let gap := s.place.gapAfter 1
  match s.place.rest with
  | [] => s.finish
  | ch :: _ =>
    if s.place.column == 0 && s.place.atMark "---" then s.mark .beginDocument
    else if s.place.column == 0 && s.place.atMark "..." then s.mark .endDocument
    else if ch == '[' then s.enter .openBracket
    else if ch == '\x7b' then s.enter .openBrace
    else if ch == ']' then s.leave .closeBracket
    else if ch == '\x7d' then s.leave .closeBrace
    else if ch == ',' then s.separate
    else if ch == '-' && gap then s.item
    else if ch == '?' && (inFlow || gap) then s.explicitKey
    else if ch == ':' && (inFlow || gap) then s.value
    else if ch == '"' || ch == '\'' then s.quoted ch
    else if startsPlain inFlow s.place.rest then s.plain
    else .error .malformed

/-- Go to the next token; behind a line break outside of brackets a key may begin. -/
def skip (s : Lexer) : Lexer :=
  let place := s.place.skip
  { s with place, opens := s.opens || (s.depth == 0 && place.line != s.place.line) }

/-- Take the next token. -/
def next (s : Lexer) : Except LoadError Lexer := do
  let s ← s.skip.settle
  (if s.depth == 0 then closeColumns s.place.column s.columns s else s).token

end Lexer

/-- What is made of a text: its tokens, and what is wrong behind the last of them. -/
structure Lexed where
  /-- The tokens. -/
  tokens : List Token
  /-- Why there are no more, if the text is not at its end. -/
  failure : LoadError

/-- The tokens up to the first candidate, as what stands there cannot be told yet. -/
def Lexer.certain (s : Lexer) : List Token :=
  let uncertain := (s.candidates.map fun k => s.count - k.number).foldl max 0
  (s.tokens.drop uncertain).reverse

/-- Take tokens up to the end of the text. -/
def Lexer.run (s : Lexer) : Nat → Lexed
  | 0 => ⟨s.certain, .malformed⟩
  | fuel + 1 =>
    match s.settle with
    | .error e => ⟨[], e⟩
    | .ok s =>
      match s.next with
      | .error e => ⟨s.certain, e⟩
      | .ok after =>
        if after.tokens.head? == some .endText then ⟨after.tokens.reverse, .malformed⟩
        else after.run fuel

/-- Cut a text into tokens. -/
def lex (text : List Char) : Lexed :=
  let s := Lexer.start text
  s.run s.bound

end LeafSwitch.Yaml
