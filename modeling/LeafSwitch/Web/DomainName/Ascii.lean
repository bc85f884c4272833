import LeafSwitch.Web.DomainName.Label
import LeafSwitch.Web.DomainName.Punycode
import LeafSwitch.Text.Blank
import LeafSwitch.Text.Layout

/-!
# Names in ASCII

A label in ASCII stays as it is. One with further characters is written by their differences, behind
four characters that no other label begins with; what such a label in ASCII stands for must be a
label too.
-/

namespace LeafSwitch.DomainName

/-- Why a text in ASCII stands for no name. -/
inductive NameError where
  /-- Nothing follows the mark of differences. -/
  | noDifferences
  /-- A label that is written by differences ends in a hyphen. -/
  | openDifferences
  /-- The differences lead to no label. -/
  | badDifferences
  /-- A label is none. -/
  | label (cause : LabelError)
  deriving DecidableEq, Repr

/-- The wording of a failure. -/
def NameError.message : NameError → String
  | .noDifferences => "Malformed A-label, no Punycode eligible content found"
  | .openDifferences => "A-label must not end with a hyphen"
  | .badDifferences => "Invalid A-label"
  | .label cause => cause.message

/-- What a label that is written by differences begins with. -/
def writtenMark : List Char := "xn--".toList

/-- The most characters of a label in ASCII. -/
def labelLimit : Nat := 63

/-- The most characters of a name in ASCII, but for a dot at its end. -/
def nameLimit : Nat := 253

/-- Whether a code is of a character that stands between labels. -/
def isDot (n : Nat) : Bool :=
  n == 0x2E || n == 0x3002 || n == 0xFF0E || n == 0xFF61

/-- The label that a text in ASCII is or stands for, in small letters. -/
def readLabel (cs : List Char) : Except NameError (List Nat) := do
  let cs := cs.map Char.toLower
  let label ←
    if writtenMark.isPrefixOf cs then
      match cs.drop writtenMark.length with
      | [] => .error .noDifferences
      | body =>
        if body.getLast? == some '-' then .error .openDifferences
        else
          match readDifferences? body with
          | some label => pure label
          | none => .error .badDifferences
    else pure (cs.map Char.toNat)
  (checkLabel label).mapError .label
  return label

/-- The labels of a name, of which the last may be followed by a dot, and whether it is. -/
def labelsOf (name : List Nat) : List (List Nat) × Bool :=
  let parts := Text.pieces isDot name
  if parts.getLast? = some [] then (parts.dropLast, true) else (parts, false)

/-- The labels that a name in ASCII stands for. -/
def readName (name : String) : Except NameError (List (List Nat)) :=
  (labelsOf (Text.codesOf name)).1.mapM fun label => readLabel (label.map Char.ofNat)

/-- A label in ASCII, if a text is one. No text is longer than its form in ASCII, so that one with
too many characters is none. -/
def asciiLabel? (label : List Nat) : Option (List Char) :=
  if labelLimit < label.length then none
  else if label.all (· < 0x80) then
    let cs := label.map Char.ofNat
    if (readLabel cs).isOk then some cs else none
  else
    let written := writtenMark ++ writeDifferences label
    if (checkLabel label).isOk && written.length ≤ labelLimit then some written else none

/-- A name in small letters in ASCII, if a text is one. -/
def asciiName? (name : List Nat) : Option String := do
  let (labels, endsInDot) := labelsOf name
  let written ← labels.mapM asciiLabel?
  let ending := if endsInDot then "." else ""
  let whole := Text.join "." (written.map String.ofList) ++ ending
  if whole.length ≤ nameLimit + ending.length then some whole else none

end LeafSwitch.DomainName
