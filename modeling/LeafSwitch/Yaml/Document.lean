import LeafSwitch.Yaml.Node
import LeafSwitch.Yaml.Token

/-!
# Documents

The tokens of a text make up one document: a scalar, a sequence or a mapping, in brackets or laid
out by columns. In brackets a pair with a colon is a mapping by itself, and the dashes of a sequence
under a key may stand in the key's own column. Items, keys and values may be missing.
-/

namespace LeafSwitch.Yaml

/-- The tokens behind a token that must come next; `cut` is what is wrong where tokens run out. -/
def expect (cut : LoadError) (t : Token) : List Token → Except LoadError (List Token)
  | [] => .error cut
  | first :: rest => if first == t then .ok rest else .error .malformed

/-- Whether one of some tokens comes next. -/
def comes (cut : LoadError) (stops : List Token) : List Token → Except LoadError Bool
  | [] => .error cut
  | first :: _ => .ok (stops.contains first)

/-- The tokens before which an entry laid out by columns ends. -/
def entryStops : List Token := [.key, .colon, .close]

mutual

/-- A node. Outside of brackets it may be laid out by columns, and where `dashes` holds it may be a
sequence whose dashes stand in the column of a key. Of the two numbers, the first bounds the work
and the second the nesting. -/
def readNode (cut : LoadError) (block dashes : Bool) :
    Nat → Nat → List Token → Except LoadError (Node × List Token)
  | 0, _, _ => .error .malformed
  | _, _, [] => .error cut
  | fuel + 1, room, first :: rest =>
    match first with
    | .plain text => .ok (.plain text, rest)
    | .quoted text => .ok (.quoted text, rest)
    | _ =>
      let opensNode := first == .openBracket || first == .openBrace || (dashes && first == .dash) ||
        (block && (first == .beginItems || first == .beginEntries))
      if !opensNode then .error .malformed
      else
        match room with
        | 0 => .error .tooDeep
        | room + 1 =>
          if first == .openBracket then readListed cut true [] fuel room rest
          else if first == .openBrace then readPaired cut true [] fuel room rest
          else if first == .dash then
            readItems cut (.dash :: entryStops) [] fuel room (first :: rest)
          else if first == .beginItems then do
            let (items, rest) ← readItems cut [.dash, .close] [] fuel room rest
            return (items, ← expect cut .close rest)
          else readEntries cut [] fuel room rest
termination_by structural fuel _ _ => fuel

/-- The node before some tokens; it may be missing. -/
def readUnless (cut : LoadError) (block : Bool) (stops : List Token) :
    Nat → Nat → List Token → Except LoadError (Node × List Token)
  | 0, _, _ => .error .malformed
  | fuel + 1, room, ts => do
    if ← comes cut stops ts then return (.missing, ts)
    else readNode cut block (block && !stops.contains .dash) fuel room ts
termination_by structural fuel _ _ => fuel

/-- The value behind the colon of a key, where one comes next. -/
def readValue (cut : LoadError) (block : Bool) (stops : List Token) :
    Nat → Nat → List Token → Except LoadError (Node × List Token)
  | 0, _, _ => .error .malformed
  | fuel + 1, room, ts => do
    if ← comes cut [.colon] ts then readUnless cut block stops fuel room (ts.drop 1)
    else return (.missing, ts)
termination_by structural fuel _ _ => fuel

/-- The items of a sequence up to its bracket, where `before` holds those so far, the last first. -/
def readListed (cut : LoadError) (isFirst : Bool) (before : List Node) :
    Nat → Nat → List Token → Except LoadError (Node × List Token)
  | 0, _, _ => .error .malformed
  | fuel + 1, room, ts => do
    if ← comes cut [.closeBracket] ts then return (.sequence before.reverse, ts.drop 1)
    let ts ← if isFirst then pure ts else expect cut .comma ts
    if ← comes cut [.key] ts then
      match room with
      | 0 => .error .tooDeep
      | inner + 1 =>
        let (k, ts) ← readUnless cut false [.colon, .comma, .closeBracket] fuel inner (ts.drop 1)
        let (v, ts) ← readValue cut false [.comma, .closeBracket] fuel inner ts
        readListed cut false (.mapping [(k, v)] :: before) fuel room ts
    else if ← comes cut [.closeBracket] ts then return (.sequence before.reverse, ts.drop 1)
    else
      let (item, ts) ← readNode cut false false fuel room ts
      readListed cut false (item :: before) fuel room ts
termination_by structural fuel _ _ => fuel

/-- The entries of a mapping up to its brace, where `before` holds those so far, the last first. -/
def readPaired (cut : LoadError) (isFirst : Bool) (before : List (Node × Node)) :
    Nat → Nat → List Token → Except LoadError (Node × List Token)
  | 0, _, _ => .error .malformed
  | fuel + 1, room, ts => do
    if ← comes cut [.closeBrace] ts then return (.mapping before.reverse, ts.drop 1)
    let ts ← if isFirst then pure ts else expect cut .comma ts
    if ← comes cut [.key] ts then
      let (k, ts) ← readUnless cut false [.colon, .comma, .closeBrace] fuel room (ts.drop 1)
      let (v, ts) ← readValue cut false [.comma, .closeBrace] fuel room ts
      readPaired cut false ((k, v) :: before) fuel room ts
    else if ← comes cut [.closeBrace] ts then return (.mapping before.reverse, ts.drop 1)
    else
      let (k, ts) ← readNode cut false false fuel room ts
      readPaired cut false ((k, .missing) :: before) fuel room ts
termination_by structural fuel _ _ => fuel

/-- The items of a sequence behind dashes, each of which ends before some tokens. -/
def readItems (cut : LoadError) (stops : List Token) (before : List Node) :
    Nat → Nat → List Token → Except LoadError (Node × List Token)
  | 0, _, _ => .error .malformed
  | fuel + 1, room, ts => do
    if ← comes cut [.dash] ts then
      let (item, ts) ← readUnless cut true stops fuel room (ts.drop 1)
      readItems cut stops (item :: before) fuel room ts
    else return (.sequence before.reverse, ts)
termination_by structural fuel _ _ => fuel

/-- The entries of a mapping in a column. -/
def readEntries (cut : LoadError) (before : List (Node × Node)) :
    Nat → Nat → List Token → Except LoadError (Node × List Token)
  | 0, _, _ => .error .malformed
  | fuel + 1, room, ts => do
    if ← comes cut [.key] ts then
      let (k, ts) ← readUnless cut true entryStops fuel room (ts.drop 1)
      let (v, ts) ← readValue cut true entryStops fuel room ts
      readEntries cut ((k, v) :: before) fuel room ts
    else return (.mapping before.reverse, ← expect cut .close ts)
termination_by structural fuel _ _ => fuel

end

/-- Whether nothing comes but marks that end a document, and the end of the text. -/
def isOver (cut : LoadError) : List Token → Except LoadError Bool
  | [] => .error cut
  | first :: rest =>
    if first == .endDocument then isOver cut rest else .ok (first == .endText)

/-- The one document of a text, where `room` tells how deep sequences and mappings may lie; a text
without one has nothing in it. -/
def readDocument (room : Nat) (text : List Char) : Except LoadError Node := do
  let ⟨tokens, cut⟩ := lex text
  let fuel := 3 * tokens.length + 3
  let marked ← comes cut [.beginDocument] tokens
  let (node, rest) ←
    if ← comes cut [.endText] tokens then pure (.missing, tokens)
    else if !marked then readNode cut true false fuel room tokens
    else
      let stops := [.beginDocument, .endDocument, .endText]
      let body := tokens.drop 1
      if ← comes cut stops body then pure (.missing, body)
      else readNode cut true false fuel room body
  if ← isOver cut rest then return node else .error .malformed

/-- Code point ranges of the characters a document may hold. -/
def documentRanges : List (Nat × Nat) :=
  [(0x09, 0x0A), (0x0D, 0x0D), (0x20, 0x7E), (0x85, 0x85), (0xA0, 0xD7FF), (0xE000, 0xFFFD),
    (0x10000, 0x10FFFF)]

/-- How many characters of a text are looked at in one go, after the first go at twice as many. -/
def portionSize : Nat := 4096

/-- The part of a text before the first portion with a character that a document may not hold. -/
def soundPart (text : List Char) : List Char :=
  let sound := (text.takeWhile (Text.inRanges documentRanges)).length
  if text.length ≤ sound then text
  else if sound < 2 * portionSize then []
  else text.take (sound / portionSize * portionSize)

/-- The value of the document in a text, given by its characters, where `room` tells how deep
sequences and mappings may lie. What is wrong in the sound part counts before what is wrong behind
it. -/
def read (room : Nat) (text : List Char) : Except LoadError Value := do
  let sound := soundPart text
  let node ← readDocument room sound
  if sound.length < text.length then .error .malformed
  node.value room

end LeafSwitch.Yaml
