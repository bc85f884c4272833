import LeafSwitch.Data.Entries
import LeafSwitch.Data.Shown
import LeafSwitch.Text.Blank
import LeafSwitch.Text.Layout
import LeafSwitch.Text.Lines

/-!
# Replies

The text of a reply is put together from the parts of its first candidate. A block in it may stand
between fence lines, which are dropped.
-/

namespace LeafSwitch.Intent

/-- Why a reply holds no text. -/
inductive ReplyError where
  /-- There are no parts where they should be; the payload is shown instead. -/
  | shape (payload : String)
  /-- There are none, and the payload cannot be shown. -/
  | unshown (cause : ShowError)
  /-- The parts hold no text, or only blanks. -/
  | empty
  /-- The parts are no list. -/
  | noParts (kind : String)
  /-- The text of a part is no text; parts that are no mappings do not count. -/
  | noText (index : Nat) (kind : String)
  deriving DecidableEq, Repr

/-- The characters of a payload that a message shows. -/
def shownPayload : Nat := 200

/-- The wording of a failure. -/
def ReplyError.message : ReplyError → String
  | .shape payload => "Unexpected response shape: " ++ Text.cutTo shownPayload payload
  | .unshown cause => cause.message
  | .empty => "Empty response from model"
  | .noParts kind => "'" ++ kind ++ "' object is not iterable"
  | .noText index kind =>
    "sequence item " ++ toString index ++ ": expected str instance, " ++ kind ++ " found"

/-- The value under a name, where a value is a mapping that has one. -/
def under? (name : String) : Value → Option Value
  | .map entries => Value.entry? entries name
  | _ => none

/-- The parts of the first candidate of a payload. -/
def parts? (payload : Value) : Option Value :=
  match under? "candidates" payload with
  | some (.list (first :: _)) => (under? "content" first).bind (under? "parts")
  | _ => none

/-- The mappings among the items of a value that can be gone through; the characters of a text and
the keys of a mapping are none. -/
def mappingsOf : Value → Except ReplyError (List (List (Value × Value)))
  | .list items =>
    .ok (items.filterMap fun
      | .map entries => some entries
      | _ => none)
  | .str _ => .ok []
  | .map _ => .ok []
  | v => .error (.noParts v.kind)

/-- The texts of mappings, of which the first has the given place; one without a text counts as
empty. -/
def textsFrom (index : Nat) : List (List (Value × Value)) → Except ReplyError (List String)
  | [] => .ok []
  | entries :: rest =>
    match (Value.entry? entries "text").getD (.str "") with
    | .str s => (textsFrom (index + 1) rest).map (s :: ·)
    | v => .error (.noText index v.kind)

/-- Why a payload without parts is refused, where `room` tells how deep it may be shown. -/
def misshapen (room : Nat) (payload : Value) : ReplyError :=
  match payload.text room with
  | .ok text => .shape text
  | .error cause => .unshown cause

/-- The text of a reply, where `room` tells how deep a payload may be shown that has none. -/
def replyText (room : Nat) (payload : Value) : Except ReplyError String := do
  let some parts := parts? payload | .error (misshapen room payload)
  let texts ← textsFrom 0 (← mappingsOf parts)
  let text := Text.trimmed (Text.join "" texts)
  if text.isEmpty then .error .empty else return text

/-- Whether a line is a fence. -/
def isFence (line : List Char) : Bool :=
  ['`', '`', '`'].isPrefixOf (Text.trim line)

/-- A text without its fence lines. -/
def withoutFences (text : String) : String :=
  let kept := (Text.lines text.toList).filter fun line => !isFence line
  Text.trimmed (Text.join "\n" (kept.map String.ofList))

end LeafSwitch.Intent
