import LeafSwitch.Number.Digit
import LeafSwitch.Text.Blank
import LeafSwitch.Text.Quoted

/-!
# Hosts

The host of an address is four small numbers, eight groups of hexadecimal digits in brackets, or a
name.
-/

namespace LeafSwitch.Web

/-- Why a text is no host. -/
inductive HostError where
  /-- Four numbers are wanted. -/
  | numbers (host : String)
  /-- Groups of hexadecimal digits are wanted. -/
  | groups (host : String)
  /-- A name may not have such parts or characters. -/
  | name (host : String)
  deriving DecidableEq, Repr

/-- The wording of a failure. -/
def HostError.message : HostError → String
  | .numbers host => "Invalid IPv4 address: " ++ Text.quoted host
  | .groups host => "Invalid IPv6 address: " ++ Text.quoted host
  | .name host => "Invalid IDNA hostname: " ++ Text.quoted host

namespace Host

/-- Whether a character is an ASCII digit. -/
def isDigit (c : Char) : Bool :=
  '0' ≤ c && c ≤ '9'

/-- Whether a character is a hexadecimal digit. -/
def isHexDigit (c : Char) : Bool :=
  isDigit c || ('a' ≤ c && c ≤ 'f') || ('A' ≤ c && c ≤ 'F')

/-- Whether a text consists of four numbers with points between, of any size. -/
def isFourNumbers (cs : List Char) : Bool :=
  let parts := Text.pieces (· == '.') cs
  parts.length == 4 && parts.all fun part => !part.isEmpty && part.all isDigit

/-- Whether a text is a number up to 255, without needless zeros at its start. -/
def isByte (cs : List Char) : Bool :=
  !cs.isEmpty && cs.all isDigit && cs.length ≤ 3 && (cs.length == 1 || cs.head? != some '0') &&
    Number.ofDigits 0 (cs.map fun c => c.toNat - 0x30) ≤ 255

/-- Whether a text is four bytes with points between. -/
def isFourBytes (cs : List Char) : Bool :=
  let parts := Text.pieces (· == '.') cs
  parts.length == 4 && parts.all isByte

/-- Whether a text is a group of hexadecimal digits. -/
def isGroup (cs : List Char) : Bool :=
  !cs.isEmpty && cs.length ≤ 4 && cs.all isHexDigit

/-- The groups of a text between colons, where four bytes at the end count as two groups. -/
def groupsOf (cs : List Char) : Option (List (List Char)) :=
  let parts := Text.pieces (· == ':') cs
  let last := parts.getLast?.getD []
  if parts.length < 3 then none
  else if last.contains '.' then
    if isFourBytes last then some (parts.dropLast ++ [['0'], ['0']]) else none
  else some parts

/-- The numbers of groups before and after a place where groups are left out; an empty group at an
end must stand next to that place. -/
def groupsAround (groups : List (List Char)) (place : Nat) : Option (Nat × Nat) :=
  let before := if (groups.head?.getD []).isEmpty then place - 1 else place
  let behind := groups.length - place - 1
  let after := if (groups.getLast?.getD []).isEmpty then behind - 1 else behind
  let openStart := (groups.head?.getD []).isEmpty && before != 0
  let openEnd := (groups.getLast?.getD []).isEmpty && after != 0
  if openStart || openEnd || before + after > 7 then none else some (before, after)

/-- Whether groups make up an address of eight, or of fewer where one run is left out. -/
def areEightGroups (groups : List (List Char)) : Bool :=
  let inner := (List.range groups.length).filter fun i =>
    0 < i && i + 1 < groups.length && (groups[i]?.getD []).isEmpty
  match inner with
  | [] => groups.length == 8 && groups.all isGroup
  | [place] =>
    match groupsAround groups place with
    | none => false
    | some (before, after) =>
      (groups.take before).all isGroup && (groups.drop (groups.length - after)).all isGroup
  | _ => false

/-- Whether a text is an address of groups, with or without a zone behind a percent sign. -/
def isGroups (cs : List Char) : Bool :=
  let address := cs.takeWhile (· != '%')
  let zoneFits := match cs.dropWhile (· != '%') with
    | [] => true
    | _ :: zone => !zone.isEmpty && !zone.contains '%'
  zoneFits &&
    match groupsOf address with
    | none => false
    | some groups => groups.length ≤ 9 && areEightGroups groups

end Host

end LeafSwitch.Web
