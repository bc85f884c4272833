import LeafSwitch.Data.Entries
import LeafSwitch.Data.Whole
import LeafSwitch.Switch
import LeafSwitch.Text.Lines
import LeafSwitch.Yaml.Document

/-!
# Seeds

A seed describes a device before it starts: a mapping with a name, interfaces and VLANs, each of
which may be missing. The device that comes of it has its first log entries from starting up.
-/

namespace LeafSwitch

namespace Seed

/-- The name of a switch without a seed. -/
def defaultHostname : String := "stratus-sw01"

/-- The VLANs of a switch without a seed. -/
def defaultVlans : List Int := [1, 10, 20, 99]

/-- The interfaces of a switch without a seed. -/
def defaultInterfaces : List Interface :=
  [{ Interface.named "et1" "Ethernet1" with
      status := .up, description := "Uplink to Core", speed := 10000 },
    { Interface.named "et2" "Ethernet2" with
      status := .up, vlan := 10, description := "Server Farm A", speed := 10000 },
    { Interface.named "et3" "Ethernet3" with vlan := 20, description := "Guest WiFi" },
    { Interface.named "et4" "Ethernet4" with status := .adminDown, description := "Reserved" },
    { Interface.named "ma1" "Management1" with
      status := .up, vlan := 0, description := "OOB Mgmt", ipAddress := .str "192.168.1.10/24" }]

/-- What a device has to say when it starts, where the given interface is the first in service. -/
def bootNotices (first : Option String) : List Notice :=
  ⟨.info, "System", "System initialization complete"⟩ ::
    match first with
    | none => []
    | some name =>
      if name.isEmpty then [] else [⟨.info, "NbInterface", "Interface " ++ name ++ " is up"⟩]

/-- What is wrong with a seed; what is given there stands as it is shown. -/
inductive Fault where
  /-- There is no such file. -/
  | notFound (path : String)
  /-- The file cannot be made out. -/
  | malformed (path : String)
  /-- The file holds something that is not a mapping. -/
  | notMapping (path : String)
  /-- The name is not a text that holds something. -/
  | hostname (given : String)
  /-- The interfaces are not a list. -/
  | interfacesNotList
  /-- An interface is not a mapping. -/
  | interfaceNotMapping (index : Nat)
  /-- An interface has no id or no name. -/
  | unnamedInterface (index : Nat)
  /-- An interface has a state that there is not. -/
  | status (name given : String)
  /-- An interface has something that is not taken for a number. -/
  | number (name : String) (cause : WholeError)
  /-- An interface has a whole number too long for a text where a text is wanted. -/
  | unshown (name : String)
  /-- The VLANs are not numbers. -/
  | vlans (given : String)
  /-- The device cannot be built. -/
  | device (cause : DeviceError)
  deriving DecidableEq, Repr

/-- The wording of a fault. -/
def Fault.message : Fault → String
  | .notFound path => "Seed file not found: " ++ path
  | .malformed path => "Invalid YAML in " ++ path
  | .notMapping path => "Seed file " ++ path ++ " must contain a mapping"
  | .hostname given => "Invalid hostname: " ++ given
  | .interfacesNotList => "interfaces must be a list"
  | .interfaceNotMapping index => "Interface #" ++ toString index ++ " must be a mapping"
  | .unnamedInterface index => "Interface #" ++ toString index ++ " needs both id and name"
  | .status name given =>
    "Invalid status for " ++ name ++ ": " ++ given ++ ". Must be one of: " ++
      Text.join ", " (Status.all.map Status.keyword)
  | .number name cause => "Invalid numeric field for " ++ name ++ ": " ++ cause.message
  | .unshown name =>
    "Invalid numeric field for " ++ name ++ ": " ++ ShowError.tooLong.message
  | .vlans given => "Invalid VLAN list: " ++ given
  | .device cause => cause.message

/-- Why a seed makes no device. -/
inductive Error where
  /-- The seed is refused for a fault. -/
  | refused (fault : Fault)
  /-- An infinity stands where a whole number is wanted. -/
  | infinite
  /-- Something that is told of cannot be shown. -/
  | unshown (cause : ShowError)
  /-- A number in the file cannot be read. -/
  | number (cause : Yaml.LoadError)
  /-- The file cannot be read. -/
  | file (cause : Site.FileError)
  /-- What is named as the file is no path. -/
  | path (kind : String)
  deriving DecidableEq, Repr

/-- The wording of a failure. -/
def Error.message : Error → String
  | .refused fault => fault.message
  | .infinite => WholeError.infinite.message
  | .unshown cause => cause.message
  | .number cause => cause.message
  | .file cause => cause.message
  | .path kind =>
    "argument should be a str or an os.PathLike object where __fspath__ returns a str, not '" ++
      kind ++ "'"

/-- Refuse a seed for a fault that tells of a text; without the text it is another failure. -/
def refuse {α : Type} (told : Except ShowError String) (fault : String → Fault) : Except Error α :=
  match told with
  | .ok text => .error (.refused (fault text))
  | .error cause => .error (.unshown cause)

/-- The whole number under a name of an interface's fields. -/
def whole (interfaceName : Except ShowError String) (fields : List (Value × Value))
    (name : String) (absent : Int) : Except Error Int :=
  match ((Value.entry? fields name).getD (.int absent)).toWhole with
  | .ok n => .ok n
  | .error .infinite => .error .infinite
  | .error cause => refuse interfaceName (.number · cause)

/-- The text of a value of an interface; a number that is too long is a fault, and a value that lies
too deep is none. -/
def textOf (room : Nat) (interfaceName : Except ShowError String) (v : Value) :
    Except Error String :=
  match v.text room with
  | .ok text => .ok text
  | .error .tooLong => refuse interfaceName .unshown
  | .error .tooDeep => .error (.unshown .tooDeep)

/-- The state that a value names. -/
def statusOf (room : Nat) (interfaceName : Except ShowError String) (given : Value) :
    Except Error Status :=
  match given.text room with
  | .error .tooDeep => .error (.unshown .tooDeep)
  | told =>
    match (told.toOption).bind fun text => Status.ofKeyword? (Text.lowered text) with
    | some status => .ok status
    | none =>
      match interfaceName with
      | .ok name => refuse told (.status name)
      | .error cause => .error (.unshown cause)

/-- The interface that a mapping describes, with its place in the list. -/
def interfaceOf (room : Nat) (index : Nat) (raw : Value) : Except Error Interface := do
  let .map fields := raw | .error (.refused (.interfaceNotMapping index))
  let id := (Value.entry? fields "id").getD .null
  let name := (Value.entry? fields "name").getD .null
  if !id.truthy || !name.truthy then .error (.refused (.unnamedInterface index))
  let told := name.text room
  let status ← statusOf room told ((Value.entry? fields "status").getD (.str "down"))
  let idText ← textOf room told id
  let nameText ← textOf room told name
  let vlan ← whole told fields "vlan" 1
  let description ← textOf room told ((Value.entry? fields "description").getD (.str ""))
  let mtu ← whole told fields "mtu" 1500
  let speed ← whole told fields "speed" 1000
  return { Interface.named idText nameText with
    status
    vlan
    description
    ipAddress := (Value.entry? fields "ip_address").getD .null
    mtu
    speed }

/-- The interfaces that mappings describe, of which the first has the given place. -/
def interfacesFrom (room : Nat) (index : Nat) : List Value → Except Error (List Interface)
  | [] => .ok []
  | raw :: rest => do
    let i ← interfaceOf room index raw
    let more ← interfacesFrom room (index + 1) rest
    return i :: more

/-- The items of a value where it is taken for a list: those of a sequence, the keys of a mapping,
the characters of a text. -/
def itemsOf? : Value → Option (List Value)
  | .list items => some items
  | .map entries => some (entries.map (·.1))
  | .str s => some (s.toList.map fun c => .str (String.singleton c))
  | _ => none

/-- The numbers that values are taken for, where `given` is how the value is shown that all of them
are from. -/
def vlansFrom (given : Except ShowError String) : List Value → Except Error (List Int)
  | [] => .ok []
  | v :: rest =>
    match v.toWhole with
    | .ok n => (vlansFrom given rest).map (n :: ·)
    | .error .infinite => .error .infinite
    | .error _ => refuse given .vlans

/-- The interfaces of a seed. -/
def interfacesOf (room : Nat) (data : List (Value × Value)) : Except Error (List Interface) :=
  match (Value.entry? data "interfaces").getD .null with
  | .null => .ok defaultInterfaces
  | .list raw => interfacesFrom room 0 raw
  | _ => .error (.refused .interfacesNotList)

/-- The VLANs of a seed. -/
def vlansOf (room : Nat) (data : List (Value × Value)) : Except Error (List Int) :=
  match Value.entry? data "vlans" with
  | none => .ok defaultVlans
  | some given =>
    match itemsOf? given with
    | none => refuse (given.shown room) .vlans
    | some items => vlansFrom (given.shown room) items

/-- The name in a seed. -/
def hostnameOf (room : Nat) (data : List (Value × Value)) : Except Error String :=
  match (Value.entry? data "hostname").getD (.str defaultHostname) with
  | .str s => if s.isEmpty then refuse ((Value.str s).shown room) .hostname else .ok s
  | given => refuse (given.shown room) .hostname

end Seed

namespace Site

/-- Start up a device: its first log entries are made. -/
def boot (s : Site) (hostname : String) (interfaces : List Interface) (vlans : List Int)
    (firstUp : Option String) : Except DeviceError Switch :=
  let (logs, site) := s.stampAll (Seed.bootNotices firstUp)
  (Device.build hostname interfaces vlans logs).map fun device => ⟨device, site⟩

/-- Start up the device that a seed describes. -/
def bootSeed (s : Site) (data : List (Value × Value)) : Except Seed.Error Switch := do
  let room := s.nesting.shown
  let hostname ← Seed.hostnameOf room data
  let interfaces ← Seed.interfacesOf room data
  let vlans ← Seed.vlansOf room data
  let firstUp := (interfaces.find? fun i => i.status == .up).map (·.name)
  (s.boot hostname interfaces vlans firstUp).mapError fun e => .refused (.device e)

/-- Start up the device without a seed. -/
def bootDefault (s : Site) : Except Seed.Error Switch :=
  (s.boot Seed.defaultHostname Seed.defaultInterfaces Seed.defaultVlans (some "Ethernet1")).mapError
    fun e => .refused (.device e)

/-- The document in a file. -/
def document (s : Site) (path : String) : Except Site.FileError (Except Yaml.LoadError Value) :=
  (s.files.read path).map fun text =>
    Yaml.read s.nesting.document (Text.unifyNewlines (Text.charsOf text))

/-- Start up the device that a seed file describes. -/
def bootFile (s : Site) (path : String) : Except Seed.Error Switch := do
  let path := (Path.ofText path).text
  if !(← (s.files.checkHolds path).mapError .file) then .error (.refused (.notFound path))
  let document ← (s.document path).mapError .file
  let data ← match document with
    | .ok v => pure v
    | .error .malformed => .error (.refused (.malformed path))
    | .error cause => .error (.number cause)
  let entries ← match data with
    | .map entries => pure entries
    | v => if v.truthy then .error (.refused (.notMapping path)) else pure []
  let sw ← s.bootSeed entries
  let description ← sw.device.describe.mapError .unshown
  return sw.report (.info "stratus_sim.device.seed"
    ("Loaded seed from " ++ path ++ ": " ++ description))

/-- Start up a device from a seed file, where one is named on start or in the settings. -/
def bootFrom (s : Site) (seed : Option String) (fallback : Value) : Except Seed.Error Switch :=
  match seed with
  | some path => s.bootFile path
  | none =>
    match fallback with
    | .str path => if path.isEmpty then s.bootDefault else s.bootFile path
    | other => if other.truthy then .error (.path other.kind) else s.bootDefault

end Site

end LeafSwitch
