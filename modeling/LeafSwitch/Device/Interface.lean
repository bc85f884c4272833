import LeafSwitch.Data.Shown
import LeafSwitch.Text.Lowercase

/-!
# Interfaces

The id of an interface identifies it; its name is what the operator sees. Either of them, in any mix
of case, refers to it.
-/

namespace LeafSwitch

open Number (Binary64)

/-- The state of an interface. -/
inductive Status where
  /-- In service. -/
  | up
  /-- Out of service. -/
  | down
  /-- Taken out of service by the operator. -/
  | adminDown
  deriving DecidableEq, Repr

namespace Status

/-- The keyword of a state. -/
def keyword : Status → String
  | up => "up"
  | down => "down"
  | adminDown => "admin_down"

/-- All states. -/
def all : List Status := [up, down, adminDown]

/-- The state with a keyword. -/
def ofKeyword? (word : String) : Option Status :=
  all.find? fun s => s.keyword == word

end Status

/-- An interface of the switch. -/
structure Interface where
  /-- The identity, which never changes. -/
  id : String
  /-- The name in displays. -/
  name : String
  /-- Whether it is in service. -/
  status : Status
  /-- Its VLAN; zero stands for untagged. -/
  vlan : Int
  /-- A free text. -/
  description : String
  /-- The address; whatever the seed holds is kept. -/
  ipAddress : Value
  /-- The largest frame, in bytes. -/
  mtu : Int
  /-- The speed in Mbps. -/
  speed : Int
  /-- The rate received, in Mbps. -/
  rxRate : Binary64
  /-- The rate sent, in Mbps. -/
  txRate : Binary64
  /-- The errors counted. -/
  errors : Int
  deriving DecidableEq, Repr

namespace Interface

/-- An interface that only has an id and a name. -/
def named (id name : String) : Interface :=
  ⟨id, name, .down, 1, "", .null, 1500, 1000, .zero false, .zero false, 0⟩

/-- The line protocol runs exactly where the interface is in service. -/
def protocolUp (i : Interface) : Bool :=
  i.status == .up

/-- Whether a text refers to the interface by its name or its id, in any mix of case. -/
def answersTo (ref : String) (i : Interface) : Bool :=
  let wanted := Text.lowered ref
  Text.lowered i.name == wanted || Text.lowered i.id == wanted

end Interface

end LeafSwitch
