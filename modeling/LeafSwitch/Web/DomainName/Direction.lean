import LeafSwitch.Web.DomainName.Letters
import LeafSwitch.Web.DomainName.Marks

/-!
# Directions

Characters are written from left to right or from right to left, and digits and signs have classes
of their own. A label with anything written from right to left, or with Arabic digits, begins with a
letter. If that is written from right to left, nothing in the label is written the other way, its
digits are of one class, and only marks stand behind its last letter or digit; otherwise nothing in
it is written from right to left.
-/

namespace LeafSwitch.DomainName

/-- The classes of characters by direction. -/
inductive Direction where
  /-- A letter written from left to right. -/
  | leftToRight
  /-- A letter written from right to left, other than an Arabic one. -/
  | rightToLeft
  /-- An Arabic letter. -/
  | arabicLetter
  /-- An Arabic digit. -/
  | arabicDigit
  /-- A European digit. -/
  | europeanDigit
  /-- A mark that goes with the character before it. -/
  | mark
  /-- A sign without a direction. -/
  | neutral
  deriving DecidableEq, Repr

/-- Why directions in a label do not go together; positions count from 1. -/
inductive DirectionError where
  /-- The direction of a character is not known. -/
  | unknown (position : Nat)
  /-- The label does not begin with a letter. -/
  | start
  /-- A letter in a label written from right to left is written the other way. -/
  | notLeftward (position : Nat)
  /-- A character in a label written from left to right is written the other way. -/
  | notRightward (position : Nat)
  /-- There are digits of both classes. -/
  | digits
  /-- A sign stands behind the last letter or digit. -/
  | ending
  deriving DecidableEq, Repr

/-- The wording of a failure in a label, which is given in quotes. -/
def DirectionError.message (shown : String) : DirectionError → String
  | .unknown position =>
    "Unknown directionality in label " ++ shown ++ " at position " ++ toString position
  | .start => "First codepoint in label " ++ shown ++ " must be directionality L, R or AL"
  | .notLeftward position =>
    "Invalid direction for codepoint at position " ++ toString position ++
      " in a right-to-left label"
  | .notRightward position =>
    "Invalid direction for codepoint at position " ++ toString position ++
      " in a left-to-right label"
  | .digits => "Can not mix numeral types in a right-to-left label"
  | .ending => "Label ends with illegal codepoint directionality"

/-! ### Classes

Ranges take in further codes only where no label can hold those. -/

/-- Ranges of letters written from right to left, other than Arabic ones. -/
def rightToLeftRanges : List (Nat × Nat) :=
  [(0x5D0, 0x5F4), (0x7C0, 0x7EA), (0x7F4, 0x7F5), (0x800, 0x815), (0x81A, 0x81A), (0x824, 0x824),
    (0x828, 0x828), (0x840, 0x858), (0x10800, 0x10A00), (0x10A10, 0x10A35), (0x10A60, 0x10AE4),
    (0x10B00, 0x10CF2), (0x10E80, 0x10EA9), (0x10EB0, 0x10F27), (0x10F70, 0x10F81),
    (0x10FB0, 0x10FF6), (0x1E800, 0x1E8C4), (0x1E922, 0x1E943), (0x1E94B, 0x1E959)]

/-- Ranges of Arabic letters. -/
def arabicLetterRanges : List (Nat × Nat) :=
  [(0x620, 0x64A), (0x66E, 0x66F), (0x671, 0x6D5), (0x6E5, 0x6E6), (0x6EE, 0x6EF), (0x6FA, 0x710),
    (0x712, 0x72F), (0x74D, 0x7A5), (0x7B1, 0x7B1), (0x860, 0x88E), (0x8A0, 0x8C9),
    (0xFE73, 0xFE73), (0x10D00, 0x10D23), (0x10F30, 0x10F45)]

/-- Ranges of Arabic digits. -/
def arabicDigitRanges : List (Nat × Nat) :=
  [(0x660, 0x669), (0x10D30, 0x10D39)]

/-- Ranges of European digits. -/
def europeanDigitRanges : List (Nat × Nat) :=
  [(0x30, 0x39), (0x6F0, 0x6F9)]

/-- Ranges of signs: the hyphen, the joiners and others. -/
def neutralRanges : List (Nat × Nat) :=
  [(0x2D, 0x2D), (0xB7, 0xB7), (0x2B9, 0x2BA), (0x2C6, 0x2CF), (0x2EC, 0x2EC), (0x375, 0x375),
    (0x200C, 0x200D), (0x2E2F, 0x2E2F), (0x30FB, 0x30FB), (0xA67F, 0xA67F), (0xA717, 0xA71F),
    (0xA788, 0xA788)]

/-- The marks that have the direction of letters. -/
def lettering : List Nat := [0xCBF, 0xCC6, 0x11A07, 0x11A08, 0x11C3F]

namespace Direction

/-- The class of a character of a label, where it is known. -/
def ofCode? (n : Nat) : Option Direction :=
  if isLate n then none
  else if Text.holds rightToLeftRanges n then some .rightToLeft
  else if Text.holds arabicLetterRanges n then some .arabicLetter
  else if Text.holds arabicDigitRanges n then some .arabicDigit
  else if Text.holds europeanDigitRanges n then some .europeanDigit
  else if Text.holds neutralRanges n then some .neutral
  else if isNonspacing n && !lettering.contains n then some .mark
  else some .leftToRight

/-- Whether letters of a class are written from right to left. -/
def isLeftward (d : Direction) : Bool :=
  d == .rightToLeft || d == .arabicLetter

/-- Whether a class is one of digits. -/
def isDigit (d : Direction) : Bool :=
  d == .arabicDigit || d == .europeanDigit

/-- Whether a label with the class must be checked, and none written from left to right may have
it. -/
def isForeign (d : Direction) : Bool :=
  d.isLeftward || d == .arabicDigit

/-- Check the classes of a label written from right to left from a position on, where the class of
digits before is given, and whether only marks stand behind the last letter or digit. -/
def checkLeftward (digits : Option Direction) (isClosed : Bool) (position : Nat) :
    List Direction → Except DirectionError Unit
  | [] => if isClosed then .ok () else .error .ending
  | d :: rest =>
    if d == .leftToRight then .error (.notLeftward position)
    else if d.isDigit && digits.any (· != d) then .error .digits
    else
      let closes := d.isLeftward || d.isDigit || (isClosed && d == .mark)
      checkLeftward (if d.isDigit then some d else digits) closes (position + 1) rest

/-- Check the known classes of a label. -/
def checkKnown (ds : List Direction) : Except DirectionError Unit :=
  match ds.findIdx? isForeign with
  | none => .ok ()
  | some place =>
    if ds.head?.any isLeftward then checkLeftward none false 1 ds
    else if ds.head? == some .leftToRight then .error (.notRightward (place + 1))
    else .error .start

/-- Check the classes of a label, as far as they are known. -/
def check (ds : List (Option Direction)) : Except DirectionError Unit :=
  match ds.findIdx? Option.isNone with
  | some place => .error (.unknown (place + 1))
  | none => checkKnown (ds.filterMap id)

end Direction

end LeafSwitch.DomainName
