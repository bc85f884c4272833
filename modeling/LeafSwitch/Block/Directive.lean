import LeafSwitch.Data.Whole
import LeafSwitch.Text.Blank

/-!
# Directives

A configuration block is a text with one directive on each line that is not blank. Every such line
is a directive: what is not recognised is one that is ignored.
-/

namespace LeafSwitch

/-- The VLAN that stands in for one that cannot be made out. -/
def defaultVlan : Nat := 1

/-- The VLAN that a whole number names; negative numbers name none. -/
def vlanOfWhole (n : Int) : Nat :=
  if n < 0 then defaultVlan else n.toNat

/-- The VLAN that a word names. -/
def vlanOfWord (word : String) : Nat :=
  match Number.readInteger word with
  | .ok n => vlanOfWhole n
  | .error _ => defaultVlan

/-- The VLAN that a value names; only an infinity is refused. -/
def vlanOfValue (v : Value) : Except WholeError Nat :=
  match v.toWhole with
  | .ok n => .ok (vlanOfWhole n)
  | .error .infinite => .error .infinite
  | .error _ => .ok defaultVlan

/-- What a line of a block asks for. -/
inductive Action where
  /-- Turn to the interface that a text refers to. -/
  | enter (ref : String)
  /-- Take the interface out of service. -/
  | shutdown
  /-- Bring the interface into service. -/
  | noShutdown
  /-- Describe the interface. -/
  | describe (text : String)
  /-- Put the interface into a VLAN. -/
  | accessVlan (vlan : Nat)
  /-- Turn away from the interface. -/
  | exit
  /-- A remark. -/
  | comment
  /-- Nothing that is known. -/
  | ignored
  deriving DecidableEq, Repr

namespace Action

/-- The keyword of an action's kind. -/
def keyword : Action → String
  | enter _ => "interface"
  | shutdown => "shutdown"
  | noShutdown => "no_shutdown"
  | describe _ => "description"
  | accessVlan _ => "access_vlan"
  | exit => "exit"
  | comment => "comment"
  | ignored => "ignored"

/-- Whether an action only has a meaning for some interface. -/
def isContextual : Action → Bool
  | shutdown | noShutdown | describe _ | accessVlan _ => true
  | _ => false

/-- The text an action carries. -/
def argument? : Action → Option String
  | enter ref => some ref
  | describe text => some text
  | _ => none

/-- The VLAN an action carries. -/
def vlan? : Action → Option Nat
  | accessVlan vlan => some vlan
  | _ => none

end Action

/-- Why a line is no directive. -/
inductive LineError where
  /-- The line has no words. -/
  | blank
  deriving DecidableEq, Repr

/-- The wording of a failure. -/
def LineError.message : LineError → String
  | .blank => "list index out of range"

/-- What stands behind the first space of a line; nothing if it has no space. -/
def behindSpace (line : List Char) : List Char :=
  (line.dropWhile (· != ' ')).drop 1

/-- The action of a line whose first word is not `interface`, given its last word. -/
def plainAction (line : List Char) (lastWord : List Char) : Action :=
  if line = "shutdown".toList then .shutdown
  else if line = "no shutdown".toList then .noShutdown
  else if "description".toList.isPrefixOf line then .describe (String.ofList (behindSpace line))
  else if "switchport access vlan".toList.isPrefixOf line then
    .accessVlan (vlanOfWord (String.ofList lastWord))
  else if line = "exit".toList then .exit
  else .ignored

/-- The action of a line. -/
def lineAction (line : List Char) : Except LineError Action :=
  if line.head? = some '!' then .ok .comment
  else
    match Text.words line with
    | [] => .error .blank
    | first :: rest =>
      if first = "interface".toList then
        match rest with
        | [] => .ok .ignored
        | ref :: _ => .ok (.enter (String.ofList ref))
      else .ok (plainAction line (rest.getLast?.getD first))

/-- A line of a block with what it asks for. -/
structure Directive where
  /-- What the line asks for. -/
  action : Action
  /-- The line. -/
  line : String
  /-- The number of the line, from 1 within a block. -/
  number : Int
  deriving DecidableEq, Repr

/-- The directive on a line. -/
def Directive.ofLine (line : List Char) (number : Int) : Except LineError Directive :=
  (lineAction line).map fun action => ⟨action, String.ofList line, number⟩

/-- The directives on the lines of a block, of which the first has a number. -/
def directivesFrom (number : Int) : List (List Char) → Except LineError (List Directive)
  | [] => .ok []
  | raw :: rest =>
    let line := Text.trim raw
    if line.isEmpty then directivesFrom (number + 1) rest
    else do
      let directive ← Directive.ofLine line number
      let more ← directivesFrom (number + 1) rest
      return directive :: more

/-- The directives of a block. -/
def directivesOf (block : String) : Except LineError (List Directive) :=
  directivesFrom 1 (Text.pieces (· == '\n') block.toList)

end LeafSwitch
