import LeafSwitch.Data.Entries
import LeafSwitch.Json.Units
import LeafSwitch.Number.Binary64
import LeafSwitch.Number.Integer

/-!
# Reading JSON

Standard JSON, with the three words `NaN`, `Infinity` and `-Infinity` as further numbers. A key that
is given twice has its last value. A whole number may have at most 4300 digits, and sequences and
mappings may not lie in each other too deeply.
-/

namespace LeafSwitch.Json

/-- Why a text is not read as JSON. -/
inductive ReadError where
  /-- The text is not JSON. -/
  | malformed
  /-- A whole number has more digits than may be read. -/
  | tooLong (digits : Nat)
  /-- A sequence lies too deep. -/
  | deepSequence
  /-- A mapping lies too deep. -/
  | deepMapping
  deriving DecidableEq, Repr

/-- The wording of a failure. -/
def ReadError.message : ReadError → String
  | .malformed => "malformed JSON"
  | .tooLong digits => Number.tooLongMessage digits
  | .deepSequence =>
    "maximum recursion depth exceeded while decoding a JSON array from a unicode string"
  | .deepMapping =>
    "maximum recursion depth exceeded while decoding a JSON object from a unicode string"

/-- The white space of JSON. -/
def isSpace (c : Char) : Bool :=
  c == ' ' || c == '\t' || c == '\n' || c == '\r'

/-- Skip white space. -/
def skipSpace (cs : List Char) : List Char :=
  cs.dropWhile isSpace

/-- The character a one-letter escape stands for. -/
def escaped? (c : Char) : Option Char :=
  if c == '"' || c == '\\' || c == '/' then some c
  else if c == 'n' then some '\n'
  else if c == 'r' then some '\r'
  else if c == 't' then some '\t'
  else if c == 'b' then some '\x08'
  else if c == 'f' then some '\x0c'
  else none

/-- A piece of a string. -/
inductive Piece where
  /-- An escape that names a unit. -/
  | named (unit : Nat)
  /-- A character. -/
  | plain (c : Char)
  deriving DecidableEq, Repr

/-- The characters of a string: two halves that are named next to each other are joined. -/
def ofPieces : List Piece → List Char
  | [] => []
  | .named h :: .named l :: rest =>
    if Text.isHigh h && Text.isLow l then Text.kept (joined h l) ++ ofPieces rest
    else Text.kept h ++ ofPieces (.named l :: rest)
  | .named n :: rest => Text.kept n ++ ofPieces rest
  | .plain c :: rest => c :: ofPieces rest

/-- The pieces of a string after its opening quote, and the text after the closing one. -/
def stringPieces : List Char → Option (List Piece × List Char)
  | [] => none
  | '"' :: rest => some ([], rest)
  | '\\' :: 'u' :: a :: b :: c :: d :: rest => do
    let n ← hexNumber? [a, b, c, d]
    let (pieces, after) ← stringPieces rest
    return (.named n :: pieces, after)
  | '\\' :: e :: rest => do
    let c ← escaped? e
    let (pieces, after) ← stringPieces rest
    return (.plain c :: pieces, after)
  | c :: rest =>
    if c.toNat < 0x20 then none
    else do
      let (pieces, after) ← stringPieces rest
      return (.plain c :: pieces, after)

/-- A string after its opening quote. -/
def readString (cs : List Char) : Except ReadError (String × List Char) :=
  match stringPieces cs with
  | some (pieces, rest) => .ok (String.ofList (ofPieces pieces), rest)
  | none => .error .malformed

/-- Whether a character is an ASCII digit. -/
def isDigit (c : Char) : Bool :=
  '0' ≤ c && c ≤ '9'

/-- The digits a text begins with, and the rest. -/
def takeDigits (cs : List Char) : List Char × List Char :=
  (cs.takeWhile isDigit, cs.dropWhile isDigit)

/-- The number that ASCII digits write. -/
def numberOf (digits : List Char) : Nat :=
  Number.ofDigits 0 (digits.map fun c => c.toNat - 0x30)

/-- The digits after a point, where a point with digits follows. -/
def takeFraction : List Char → Option (List Char × List Char)
  | '.' :: cs =>
    let (digits, rest) := takeDigits cs
    if digits.isEmpty then none else some (digits, rest)
  | _ => none

/-- The exponent and what follows it, where an exponent follows. -/
def takeExponent : List Char → Option (Int × List Char)
  | c :: cs =>
    if c == 'e' || c == 'E' then
      let (negative, body) := Number.takeSign cs
      let (digits, rest) := takeDigits body
      if digits.isEmpty then none
      else
        let size : Int := numberOf digits
        some (if negative then -size else size, rest)
    else none
  | [] => none

/-- A number; it is a double if it has a fraction or an exponent. -/
def readNumber (cs : List Char) : Except ReadError (Value × List Char) :=
  let (negative, body) := match cs with
    | '-' :: rest => (true, rest)
    | _ => (false, cs)
  let (digits, rest) := match body with
    | '0' :: rest => (['0'], rest)
    | _ => takeDigits body
  if digits.isEmpty then .error .malformed
  else
    let fraction := takeFraction rest
    let afterFraction := (fraction.map (·.2)).getD rest
    let exponent := takeExponent afterFraction
    if fraction.isNone && exponent.isNone then
      if digits.length > Number.maxDigits then .error (.tooLong digits.length)
      else
        let size : Int := numberOf digits
        .ok (.int (if negative then -size else size), rest)
    else
      let part := (fraction.map (·.1)).getD []
      let power := (exponent.map (·.1)).getD 0
      .ok (.float (.ofDecimal negative (numberOf (digits ++ part)) (power - part.length)),
        (exponent.map (·.2)).getD afterFraction)

/-- The text after a word, where the text begins with the word. -/
def afterWord? (word : String) (cs : List Char) : Option (List Char) :=
  if word.toList.isPrefixOf cs then some (cs.drop word.length) else none

/-- A word that stands for a value, or a number. -/
def readScalar (cs : List Char) : Except ReadError (Value × List Char) :=
  let words : List (String × Value) :=
    [("null", .null), ("true", .bool true), ("false", .bool false), ("NaN", .float .nan),
      ("Infinity", .float (.infinite false)), ("-Infinity", .float (.infinite true))]
  match words.findSome? fun (word, v) => (afterWord? word cs).map fun rest => (v, rest) with
  | some found => .ok found
  | none => readNumber cs

mutual

/-- A value; of the two numbers, the first bounds the characters that may still be read and the
second how deep sequences and mappings may still lie. -/
def readValue : Nat → Nat → List Char → Except ReadError (Value × List Char)
  | 0, _, _ => .error .malformed
  | fuel + 1, room, cs =>
    match cs with
    | '"' :: rest => (readString rest).map fun (s, after) => (.str s, after)
    | '[' :: rest =>
      match room, skipSpace rest with
      | 0, _ => .error .deepSequence
      | _, ']' :: after => .ok (.list [], after)
      | room + 1, body => (readItems fuel room body).map fun (items, after) => (.list items, after)
    | '{' :: rest =>
      match room, skipSpace rest with
      | 0, _ => .error .deepMapping
      | _, '}' :: after => .ok (.map [], after)
      | room + 1, body =>
        (readMembers fuel room body).map fun (entries, after) => (Value.mapOf entries, after)
    | _ => readScalar cs
termination_by structural fuel _ _ => fuel

/-- The items of a sequence up to its closing bracket. -/
def readItems : Nat → Nat → List Char → Except ReadError (List Value × List Char)
  | 0, _, _ => .error .malformed
  | fuel + 1, room, cs => do
    let (item, rest) ← readValue fuel room cs
    match skipSpace rest with
    | ']' :: after => return ([item], after)
    | ',' :: more =>
      let (items, after) ← readItems fuel room (skipSpace more)
      return (item :: items, after)
    | _ => .error .malformed
termination_by structural fuel _ _ => fuel

/-- The members of a mapping up to its closing brace. -/
def readMembers : Nat → Nat → List Char → Except ReadError (List (Value × Value) × List Char)
  | 0, _, _ => .error .malformed
  | fuel + 1, room, cs => do
    let (key, rest) ← match cs with
      | '"' :: body => readString body
      | _ => .error .malformed
    let body ← match skipSpace rest with
      | ':' :: body => .ok (skipSpace body)
      | _ => .error .malformed
    let (value, rest) ← readValue fuel room body
    match skipSpace rest with
    | '}' :: after => return ([(.str key, value)], after)
    | ',' :: more =>
      let (entries, after) ← readMembers fuel room (skipSpace more)
      return ((.str key, value) :: entries, after)
    | _ => .error .malformed
termination_by structural fuel _ _ => fuel

end

/-- Read a text that holds one JSON value and nothing else, where `room` tells how deep sequences
and mappings may lie. -/
def read (room : Nat) (text : String) : Except ReadError Value :=
  let cs := text.toList
  match readValue (2 * cs.length + 2) room (skipSpace cs) with
  | .ok (value, rest) => if (skipSpace rest).isEmpty then .ok value else .error .malformed
  | .error e => .error e

end LeafSwitch.Json
