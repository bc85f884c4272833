import LeafSwitch.Data.Shown
import LeafSwitch.Device.Interface
import LeafSwitch.Device.Log
import LeafSwitch.Text.Layout

/-!
# The device

A device has a name, interfaces with distinct ids, VLANs in ascending order and a log that only
grows. Interfaces are replaced by id, never added or removed. Every positive VLAN of an interface is
one of the VLANs of the device.
-/

namespace LeafSwitch

/-- Put a number into an ascending list; one that is there already is not put in again. -/
def insertAscending (n : Int) : List Int → List Int
  | [] => [n]
  | m :: rest =>
    if n < m then n :: m :: rest
    else if n = m then m :: rest
    else m :: insertAscending n rest

/-- The positive numbers of a list in ascending order, each once. -/
def ascending (numbers : List Int) : List Int :=
  (numbers.filter (0 < ·)).foldr insertAscending []

/-- The VLANs that hold given ones and those of the interfaces. -/
def reconcileVlans (vlans : List Int) (interfaces : List Interface) : List Int :=
  ascending (vlans ++ interfaces.map (·.vlan))

/-- The simulated switch. -/
structure Device where
  /-- The name of the switch. -/
  hostname : String
  /-- The interfaces, in order. -/
  interfaces : List Interface
  /-- The VLANs, in ascending order. -/
  vlans : List Int
  /-- The log, oldest entry first. -/
  logs : List LogEntry
  deriving DecidableEq, Repr

/-- Why something about a device is not shown. -/
inductive DisplayError where
  /-- A VLAN is not. -/
  | vlan (cause : ShowError)
  /-- The time of a log entry is not. -/
  | time (cause : Time.TimeError)
  deriving DecidableEq, Repr

/-- The wording of a failure. -/
def DisplayError.message : DisplayError → String
  | .vlan cause => cause.message
  | .time cause => cause.message

/-- Why a device cannot be built. -/
inductive DeviceError where
  /-- Two interfaces share an id. -/
  | duplicateIds (ids : List String)
  deriving DecidableEq, Repr

/-- The wording of a failure. -/
def DeviceError.message : DeviceError → String
  | .duplicateIds ids => "Duplicate interface ids: " ++ Text.quotedList ids

namespace Device

/-- Build a device; the ids of its interfaces must differ. -/
def build (hostname : String) (interfaces : List Interface) (vlans : List Int)
    (logs : List LogEntry) : Except DeviceError Device :=
  let ids := interfaces.map (·.id)
  if ids.Nodup then .ok ⟨hostname, interfaces, reconcileVlans vlans interfaces, logs⟩
  else .error (.duplicateIds ids)

/-- The first interface a text refers to; no text and an empty text refer to none. -/
def find? (d : Device) (ref : Option String) : Option Interface :=
  match ref with
  | none => none
  | some text => if text.isEmpty then none else d.interfaces.find? (·.answersTo text)

/-- The interface with an id. -/
def get? (d : Device) (id : String) : Option Interface :=
  d.interfaces.find? (·.id == id)

/-- The last `count` entries of the log, oldest first. -/
def recent (d : Device) (count : Int) : List LogEntry :=
  d.logs.drop (d.logs.length - count.toNat)

/-- The VLANs as text, from the least. -/
def vlanText (d : Device) : Except ShowError String := do
  let texts ← d.vlans.mapM Value.wholeText
  return Text.join ", " texts

/-- A device in one line. -/
def describe (d : Device) : Except ShowError String := do
  let vlans ← d.vlanText
  return "DeviceState(hostname=" ++ Text.quoted d.hostname ++ ", interfaces=" ++
    toString d.interfaces.length ++ ", vlans=[" ++ vlans ++ "], logs=" ++
    toString d.logs.length ++ ")"

end Device

/-- Changes that are made to a device in one step. -/
structure Update where
  /-- The new name, if it changes. -/
  hostname : Option String
  /-- Replacements of interfaces, each under the id of the interface it replaces. -/
  interfaces : List (String × Interface)
  /-- VLANs to add. -/
  vlans : List Int
  /-- Entries to append to the log. -/
  logs : List LogEntry
  deriving DecidableEq, Repr

namespace Update

/-- An update that changes nothing. -/
def none : Update := ⟨.none, [], [], []⟩

/-- Whether an update holds no change at all. -/
def isEmpty (u : Update) : Bool :=
  u.hostname.isNone && u.interfaces.isEmpty && u.vlans.isEmpty && u.logs.isEmpty

/-- What an interface becomes; a replacement takes over the id. -/
def replace (u : Update) (i : Interface) : Interface :=
  match u.interfaces.lookup i.id with
  | some replacement => { replacement with id := i.id }
  | .none => i

end Update

/-- Make an update: ids under which no interface stands are ignored, and the VLANs are reconciled
once all interfaces are replaced. -/
def Device.commit (d : Device) (u : Update) : Device :=
  if u.isEmpty then d
  else
    let interfaces := d.interfaces.map u.replace
    { hostname := u.hostname.getD d.hostname
      interfaces
      vlans := reconcileVlans (d.vlans ++ u.vlans) interfaces
      logs := d.logs ++ u.logs }

/-- Append one entry to the log. -/
def Device.append (d : Device) (e : LogEntry) : Device :=
  { d with logs := d.logs ++ [e] }

end LeafSwitch
