import LeafSwitch.Web.DomainName.Composition
import LeafSwitch.Web.DomainName.Direction
import LeafSwitch.Web.DomainName.Joining
import LeafSwitch.Web.DomainName.Letters
import LeafSwitch.Text.Quoted

/-!
# Labels

A name is made of labels. A label is in composed form, has hyphens neither at its ends nor at its
third and fourth place, begins with no mark, and holds letters. Some further characters may stand
where their neighbours call for them, and directions must agree. Labels are given by codes.
-/

namespace LeafSwitch.DomainName

/-- Why a text is no label; positions count from 1. -/
inductive LabelError where
  /-- It is empty. -/
  | empty
  /-- It is not in composed form. -/
  | notComposed
  /-- Hyphens stand at the third and the fourth place. -/
  | innerHyphens
  /-- A hyphen stands at an end. -/
  | outerHyphen
  /-- It begins with a mark. -/
  | leadingMark
  /-- A code that is of no letter stands at a position. -/
  | noLetter (label : String) (code position : Nat)
  /-- A joiner stands between characters that do not call for it. -/
  | joiner (label : String) (code position : Nat)
  /-- Another character stands where its neighbours do not call for it. -/
  | misplaced (label : String) (code position : Nat)
  /-- The directions do not agree. -/
  | direction (label : String) (cause : DirectionError)
  deriving DecidableEq, Repr

/-- A code by its number, of four hexadecimal digits at least. -/
def codeName (n : Nat) : String :=
  let width := if n ≤ 0xFFFF then 4 else if n ≤ 0xFFFFF then 5 else 6
  "U+" ++ String.ofList ((Text.hexDigits width n).map Char.toUpper)

/-- The wording of a failure. -/
def LabelError.message : LabelError → String
  | .empty => "Empty Label"
  | .notComposed => "Label must be in Normalization Form C"
  | .innerHyphens => "Label has disallowed hyphens in 3rd and 4th position"
  | .outerHyphen => "Label must not start or end with a hyphen"
  | .leadingMark => "Label begins with an illegal combining character"
  | .noLetter label code position =>
    "Codepoint " ++ codeName code ++ " at position " ++ toString position ++ " of " ++
      Text.quoted label ++ " not allowed"
  | .joiner label code position =>
    "Unknown codepoint adjacent to joiner " ++ codeName code ++ " at position " ++
      toString position ++ " in " ++ Text.quoted label
  | .misplaced label code position =>
    "Codepoint " ++ codeName code ++ " not allowed at position " ++ toString position ++ " in " ++
      Text.quoted label
  | .direction label cause => cause.message (Text.quoted label)

/-- The hyphen. -/
def hyphen : Nat := 0x2D

/-! ### Characters that need their neighbours -/

/-- Whether a code is of a joiner or a non-joiner. -/
def isJoiner (n : Nat) : Bool :=
  n == 0x200C || n == 0x200D

/-- Whether a code is of an Arabic digit. -/
def isArabicDigit (n : Nat) : Bool :=
  0x660 ≤ n && n ≤ 0x669

/-- Whether a code is of a digit of the eastern Arabic ones. -/
def isEasternDigit (n : Nat) : Bool :=
  0x6F0 ≤ n && n ≤ 0x6F9

/-- Whether a code is of a character other than joiners that needs its neighbours: the middle dot,
the Greek numeral sign, Hebrew punctuation, the Katakana dot and Arabic digits. -/
def isDependent (n : Nat) : Bool :=
  [0xB7, 0x375, 0x5F3, 0x5F4, 0x30FB].contains n || isArabicDigit n || isEasternDigit n

/-- Whether a joiner may stand behind some codes, given from the nearest, and before others. It
stands behind a mark that takes the vowel, and a non-joiner also between letters that would join. -/
def joinerFits (before : List Nat) (n : Nat) (after : List Nat) : Bool :=
  before.head?.any isVirama ||
    (n == 0x200C && !before.head?.any isLate && meets joinsAfter before && meets joinsBefore after)

/-- Whether another dependent character may stand behind some codes, given from the nearest, and
before others. A middle dot stands between two letters l; the Greek numeral sign needs a Greek
letter behind it, Hebrew punctuation a Hebrew one before it, and the Katakana dot one of the
Japanese scripts anywhere; and two kinds of Arabic digits do not mix. -/
def dependentFits (before : List Nat) (n : Nat) (after : List Nat) : Bool :=
  if n == 0xB7 then before.head? == some 0x6C && after.head? == some 0x6C
  else if n == 0x375 then after.head?.any isGreek
  else if n == 0x5F3 || n == 0x5F4 then before.head?.any isHebrew
  else if n == 0x30FB then before.any isJapanese || after.any isJapanese
  else if isArabicDigit n then !before.any isEasternDigit && !after.any isEasternDigit
  else !before.any isArabicDigit && !after.any isArabicDigit

/-! ### The check -/

/-- Check the characters of a label from a place on, behind some given from the nearest. -/
def checkCodes (label before : List Nat) : List Nat → Except LabelError Unit
  | [] => .ok ()
  | n :: after =>
    if isLetter n then checkCodes label (n :: before) after
    else
      let shown := Text.ofCodes label
      let position := before.length + 1
      if isJoiner n then
        if joinerFits before n after then checkCodes label (n :: before) after
        else .error (.joiner shown n position)
      else if isDependent n then
        if dependentFits before n after then checkCodes label (n :: before) after
        else .error (.misplaced shown n position)
      else .error (.noLetter shown n position)

/-- Check where hyphens stand. -/
def checkHyphens (label : List Nat) : Except LabelError Unit :=
  if (label.drop 2).take 2 == [hyphen, hyphen] then .error .innerHyphens
  else if label.head? == some hyphen || label.getLast? == some hyphen then .error .outerHyphen
  else .ok ()

/-- Check that a text is a label. -/
def checkLabel (label : List Nat) : Except LabelError Unit := do
  if label.isEmpty then .error .empty
  if !isComposed label then .error .notComposed
  checkHyphens label
  if label.head?.any isMark then .error .leadingMark
  checkCodes label [] label
  (Direction.check (label.map Direction.ofCode?)).mapError (.direction (Text.ofCodes label))

end LeafSwitch.DomainName
