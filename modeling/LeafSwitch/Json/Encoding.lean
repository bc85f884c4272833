import LeafSwitch.Json.Units
import LeafSwitch.Text.Quoted

/-!
# The encoding of JSON

Bytes that hold JSON tell their encoding by where zeros stand among the first four, as JSON begins
with an ASCII character. Without zeros there they are UTF-8, and a byte order mark at their start is
passed over.
-/

namespace LeafSwitch.Json

/-- How bytes encode a text. -/
inductive Encoding where
  /-- One to four bytes a character. -/
  | utf8
  /-- Units of two bytes. -/
  | utf16 (bigEndian : Bool)
  /-- Units of four bytes. -/
  | utf32 (bigEndian : Bool)
  deriving DecidableEq, Repr

namespace Encoding

/-- The encoding that zeros among the first bytes tell. -/
def detect : List Nat → Encoding
  | [a, b] => if a = 0 then .utf16 true else if b = 0 then .utf16 false else .utf8
  | a :: b :: c :: d :: _ =>
    if a = 0 then if b = 0 then .utf32 true else .utf16 true
    else if b = 0 then if c = 0 && d = 0 then .utf32 false else .utf16 false
    else .utf8
  | _ => .utf8

/-- The name of an encoding. -/
def name : Encoding → String
  | utf8 => "utf-8"
  | utf16 big => if big then "utf-16-be" else "utf-16-le"
  | utf32 big => if big then "utf-32-be" else "utf-32-le"

end Encoding

/-- Why bytes are no text. -/
inductive DecodeError where
  /-- The last unit, which begins at a position, lacks bytes. -/
  | cutOff (encoding : Encoding) (position : Nat) (rest : List Nat)
  /-- A unit, which begins at a position, is no code point. -/
  | outOfRange (encoding : Encoding) (position : Nat)
  deriving DecidableEq, Repr

/-- The wording of a failure. -/
def DecodeError.message : DecodeError → String
  | .cutOff e position [byte] =>
    "'" ++ e.name ++ "' codec can't decode byte 0x" ++ String.ofList (Text.hexDigits 2 byte) ++
      " in position " ++ toString position ++ ": truncated data"
  | .cutOff e position rest =>
    "'" ++ e.name ++ "' codec can't decode bytes in position " ++ toString position ++ "-" ++
      toString (position + rest.length - 1) ++ ": truncated data"
  | .outOfRange e position =>
    "'" ++ e.name ++ "' codec can't decode bytes in position " ++ toString position ++ "-" ++
      toString (position + 3) ++ ": code point not in range(0x110000)"

/-- The number that bytes make, where the first counts most or least. -/
def unitOf (bigEndian : Bool) (bytes : List Nat) : Nat :=
  (if bigEndian then bytes else bytes.reverse).foldl (fun n byte => 256 * n + byte) 0

/-- The units of two bytes, of which the first begins at a position. -/
def units16 (bigEndian : Bool) (position : Nat) : List Nat → Except DecodeError (List Nat)
  | a :: b :: rest =>
    (units16 bigEndian (position + 2) rest).map (unitOf bigEndian [a, b] :: ·)
  | [] => .ok []
  | rest => .error (.cutOff (.utf16 bigEndian) position rest)

/-- The units of four bytes, of which the first begins at a position. -/
def units32 (bigEndian : Bool) (position : Nat) : List Nat → Except DecodeError (List Nat)
  | a :: b :: c :: d :: rest =>
    let n := unitOf bigEndian [a, b, c, d]
    if n < 0x110000 then (units32 bigEndian (position + 4) rest).map (n :: ·)
    else .error (.outOfRange (.utf32 bigEndian) position)
  | [] => .ok []
  | rest => .error (.cutOff (.utf32 bigEndian) position rest)

/-- A text without a byte order mark at its start. -/
def unmarked (text : String) : String :=
  match text.toList with
  | '\ufeff' :: rest => String.ofList rest
  | _ => text

/-- The text of an answer whose bytes are those of a text in UTF-8. -/
def decode (answer : String) : Except DecodeError String :=
  let bytes := (Text.sent answer).toUTF8.toList.map UInt8.toNat
  match Encoding.detect bytes with
  | .utf8 => .ok (unmarked answer)
  | .utf16 big => (units16 big 0 bytes).map fun units => Text.ofCodes (codesOfUnits units)
  | .utf32 big => (units32 big 0 bytes).map Text.ofCodes

end LeafSwitch.Json
