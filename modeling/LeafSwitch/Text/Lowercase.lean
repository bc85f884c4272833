import LeafSwitch.Text.CaseTable
import LeafSwitch.Text.Class

/-!
# Lowercasing

Full Unicode lowercasing. Two characters need more than the table: the dotted capital I becomes two
characters, and a capital sigma takes its final form at the end of a word.
-/

namespace LeafSwitch.Text

/-- Whether case rules look through a character. -/
def isCaseIgnorable (c : Char) : Bool :=
  inRanges ignorableRanges c

/-- Whether a character has case. -/
def isCased (c : Char) : Bool :=
  inRanges casedRanges c

/-- Whether the nearest character that is not looked through has case. -/
def meetsCased (cs : List Char) : Bool :=
  ((cs.dropWhile isCaseIgnorable).head?.map isCased).getD false

/-- The lower case of one character by the table. -/
def lowerChar (c : Char) : Char :=
  let n := c.toNat
  if n < 0x80 then
    if 0x41 ≤ n && n ≤ 0x5A then Char.ofNat (n + 32) else c
  else
    match caseRuns.find? fun r => r.first ≤ n && n ≤ r.last && (n - r.first) % r.step == 0 with
    | some r => Char.ofNat (Int.toNat (n + r.shift))
    | none => c

/-- Lowercase the characters that follow `before`, which is held nearest first. -/
def lowerAfter (before : List Char) : List Char → List Char
  | [] => []
  | c :: cs =>
    let image :=
      if c == 'İ' then ['i', '\u0307']
      else if c == 'Σ' then
        if meetsCased before && !meetsCased cs then ['ς'] else ['σ']
      else [lowerChar c]
    image ++ lowerAfter (c :: before) cs

/-- A text in lower case. -/
def lowered (s : String) : String :=
  String.ofList (lowerAfter [] s.toList)

end LeafSwitch.Text
