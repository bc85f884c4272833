import LeafSwitch.Block.Directive
import LeafSwitch.Block.Report
import LeafSwitch.Switch

/-!
# Staging

A block is worked through on the side. Its directives act on the interface the block has turned to,
which is none at first; what they change is kept apart from the device, together with what is to be
said about it, until the whole block has been worked through.
-/

namespace LeafSwitch

/-- Why a block cannot be worked through. -/
inductive BlockError where
  /-- A line is no directive. -/
  | line (cause : LineError)
  /-- The block has turned to an interface that the device does not have. -/
  | noInterface (id : String)
  deriving DecidableEq, Repr

/-- The wording of a failure. -/
def BlockError.message : BlockError → String
  | .line cause => cause.message
  | .noInterface _ => "replace() should be called on dataclass instances"

/-- What a block has come to so far. -/
structure Staging where
  /-- The interfaces as they will be, in the order in which they were first touched. -/
  interfaces : List Interface
  /-- The VLANs that interfaces were put into, each once. -/
  vlans : List Nat
  /-- What is to be said. -/
  notices : List Notice
  /-- The directives applied. -/
  applied : Nat
  /-- The directives without effect. -/
  ignored : Nat
  /-- Details for the journal. -/
  details : List String
  deriving DecidableEq, Repr

namespace Staging

/-- Nothing is staged. -/
def none : Staging := ⟨[], [], [], 0, 0, []⟩

/-- The process that blocks speak for. -/
def process : String := "ConfigAgent"

/-- An interface as it stands by now. -/
def current? (s : Staging) (d : Device) (id : String) : Option Interface :=
  (s.interfaces.find? (·.id == id)).or (d.get? id)

/-- Stage an interface; one that is staged already keeps its place. -/
def put (s : Staging) (i : Interface) : Staging :=
  { s with
    interfaces :=
      if s.interfaces.any (·.id == i.id) then
        s.interfaces.map fun j => if j.id == i.id then i else j
      else s.interfaces ++ [i] }

/-- Stage a notice. -/
def say (s : Staging) (severity : Severity) (message : String) : Staging :=
  { s with notices := s.notices ++ [⟨severity, process, message⟩] }

/-- Note a VLAN that an interface was put into; zero is no VLAN of the device. -/
def join (s : Staging) (vlan : Nat) : Staging :=
  if vlan = 0 || s.vlans.contains vlan then s else { s with vlans := s.vlans ++ [vlan] }

/-- Apply a directive to an interface. -/
def touch (s : Staging) (i : Interface) : Action → Staging
  | .shutdown =>
    (s.put { i with status := .adminDown }).say .warning (i.name ++ " disabled via AI Agent")
  | .noShutdown => (s.put { i with status := .up }).say .info (i.name ++ " enabled via AI Agent")
  | .describe text => s.put { i with description := text }
  | .accessVlan vlan => (s.put { i with vlan }).join vlan
  | _ => s

/-- Pass over a directive, with a detail for the journal. -/
def passOver (s : Staging) (d : Directive) (detail : String) : Staging :=
  { s with
    ignored := s.ignored + 1
    details := s.details ++ ["Line " ++ toString d.number ++ ": " ++ detail] }

/-- Work through one directive, where `context` is the id of the interface the block has turned to;
the result has the context for the next one. -/
def step (device : Device) (context : Option String) (s : Staging) (d : Directive) :
    Except BlockError (Option String × Staging) :=
  match d.action with
  | .enter ref =>
    match device.find? (some ref) with
    | some i => .ok (some i.id, s)
    | .none =>
      .ok (context,
        s.passOver d ("unknown interface " ++ Text.quoted ref ++ ", context unchanged"))
  | .exit => .ok (.none, s)
  | .comment => .ok (context, s)
  | .ignored => .ok (context, s.passOver d ("ignoring " ++ Text.quoted d.line))
  | action =>
    match context with
    | .none => .ok (context, s.passOver d (Text.quoted d.line ++ " outside interface context"))
    | some id =>
      match s.current? device id with
      | .none => .error (.noInterface id)
      | some i =>
        let s := s.touch i action
        .ok (context, { s with applied := s.applied + 1 })

/-- Work through directives in order. -/
def run (device : Device) (context : Option String) (s : Staging) :
    List Directive → Except BlockError Staging
  | [] => .ok s
  | d :: rest => do
    let (context, s) ← step device context s d
    run device context s rest

/-- What has been staged, as a change of the device. -/
def change (s : Staging) : Change :=
  ⟨.none, s.interfaces.map fun i => (i.id, i), s.vlans.map Int.ofNat, s.notices⟩

/-- The names that interfaces with given ids have on a device. -/
def namesOf (device : Device) : List String → Except BlockError (List String)
  | [] => .ok []
  | id :: rest =>
    match device.get? id with
    | .none => .error (.noInterface id)
    | some i => (namesOf device rest).map (i.name :: ·)

/-- The VLANs staged that a device did not have before, in ascending order. -/
def created (s : Staging) (before : Device) : List Int :=
  ascending ((s.vlans.map Int.ofNat).filter fun v => !before.vlans.contains v)

end Staging

end LeafSwitch
