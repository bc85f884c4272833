import LeafSwitch.Proofs.Device.Shown

/-!
# Checked steps

Some steps are there for some arguments only: taking an item of a list, using what may be missing,
and writing out a whole number or a time. Here each of them says when it is not there, so that a
program made of them shows the places where they are not.
-/

namespace LeafSwitch

/-- A step that is not there. -/
inductive Fault where
  /-- A list has no item at an index, counted from 0. -/
  | noItem (index : Nat)
  /-- A list has no last item. -/
  | noLast
  /-- There is no interface to work on. -/
  | noInterface
  /-- There is no VLAN to compare or to store. -/
  | noVlan
  /-- A VLAN or a time cannot be written out. -/
  | unshown (cause : DisplayError)
  deriving DecidableEq, Repr

/-- The wording of a fault. -/
def Fault.message : Fault → String
  | noItem _ | noLast => "list index out of range"
  | noInterface => "replace() should be called on dataclass instances"
  | noVlan => "'>' not supported between instances of 'NoneType' and 'int'"
  | unshown cause => cause.message

namespace Checked

variable {α : Type}

/-- The item of a list at an index. -/
def item (items : List α) (index : Nat) : Except Fault α :=
  match items[index]? with
  | some a => .ok a
  | none => .error (.noItem index)

/-- The last item of a list. -/
def last (items : List α) : Except Fault α :=
  match items.getLast? with
  | some a => .ok a
  | none => .error .noLast

/-- The interface that a search has found. -/
def interface (found : Option Interface) : Except Fault Interface :=
  match found with
  | some i => .ok i
  | none => .error .noInterface

/-- The VLAN that something carries. -/
def vlan (carried : Option Int) : Except Fault Int :=
  match carried with
  | some v => .ok v
  | none => .error .noVlan

/-- A number as it is written out. -/
def number (n : Int) : Except Fault String :=
  if n.natAbs < Value.shownLimit then .ok (toString n) else .error (.unshown (.vlan .tooLong))

/-- Numbers as they are written out. -/
def numbers (ns : List Int) : Except Fault (List String) :=
  ns.mapM number

/-- A log entry as it is written out. -/
def entry (e : LogEntry) : Except Fault String :=
  if e.time.inRange = true then .ok e.line else .error (.unshown (.time .outOfRange))

/-- Log entries as they are written out. -/
def entries (es : List LogEntry) : Except Fault (List String) :=
  es.mapM entry

/-- Numbers are written out where they are short enough. -/
theorem numbers_eq (ns : List Int) :
    numbers ns =
      if ∀ n ∈ ns, n.natAbs < Value.shownLimit then .ok (ns.map toString)
      else .error (.unshown (.vlan .tooLong)) :=
  mapM_eq_ite (fun _ => rfl) ns

/-- Log entries are written out where their times lie within the calendar. -/
theorem entries_eq (es : List LogEntry) :
    entries es =
      if ∀ e ∈ es, e.time.inRange = true then .ok (es.map LogEntry.line)
      else .error (.unshown (.time .outOfRange)) :=
  mapM_eq_ite (fun _ => rfl) es

end Checked

end LeafSwitch
