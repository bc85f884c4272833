import LeafSwitch.Block.Staging

/-!
# What an action leaves behind

An action on an interface sets one field, and some actions say something about it. Of a row of
actions only the last one on each field counts.
-/

namespace LeafSwitch

/-- An interface after an action on it. -/
def Interface.touched (i : Interface) : Action → Interface
  | .shutdown => { i with status := .adminDown }
  | .noShutdown => { i with status := .up }
  | .describe text => { i with description := text }
  | .accessVlan vlan => { i with vlan }
  | _ => i

/-- The state an action puts an interface into. -/
def Action.status? : Action → Option Status
  | .shutdown => some .adminDown
  | .noShutdown => some .up
  | _ => none

/-- The description an action gives to an interface. -/
def Action.description? : Action → Option String
  | .describe text => some text
  | _ => none

/-- What is said about an action on the interface with a name. -/
def Action.notice? (name : String) : Action → Option Notice
  | .shutdown => some ⟨.warning, "ConfigAgent", name ++ " disabled via AI Agent"⟩
  | .noShutdown => some ⟨.info, "ConfigAgent", name ++ " enabled via AI Agent"⟩
  | _ => none

/-- An interface on which each field has the value of the last action on it, or its own if there is
no such action. -/
def Interface.settled (i : Interface) (actions : List Action) : Interface :=
  { i with
    status := (actions.filterMap Action.status?).getLast?.getD i.status
    description := (actions.filterMap Action.description?).getLast?.getD i.description
    vlan := ((actions.filterMap Action.vlan?).getLast?.map Int.ofNat).getD i.vlan }

@[simp] theorem Interface.touched_id (i : Interface) (a : Action) : (i.touched a).id = i.id := by
  cases a <;> rfl

@[simp] theorem Interface.touched_name (i : Interface) (a : Action) :
    (i.touched a).name = i.name := by
  cases a <;> rfl

/-- An action puts an interface into the VLAN it carries, or leaves it in its own. -/
theorem Interface.touched_vlan (i : Interface) (a : Action) :
    (i.touched a).vlan = (a.vlan?.map Int.ofNat).getD i.vlan := by
  cases a <;> rfl

/-- An action carries a VLAN exactly where it puts an interface into it. -/
theorem Action.vlan?_eq_some_iff {a : Action} {v : Nat} : a.vlan? = some v ↔ a = .accessVlan v := by
  cases a <;> simp [Action.vlan?]

/-- An action that acts on no interface leaves each as it is. -/
theorem Interface.touched_of_not_contextual (i : Interface) {a : Action}
    (h : a.isContextual = false) : i.touched a = i := by
  cases a <;> first | rfl | contradiction

@[simp] theorem Interface.settled_id (i : Interface) (actions : List Action) :
    (i.settled actions).id = i.id := rfl

@[simp] theorem Interface.settled_nil (i : Interface) : i.settled [] = i := rfl

/-- The first of some actions makes no difference to a field that a later one sets. -/
theorem Interface.settled_cons (i : Interface) (a : Action) (rest : List Action) :
    i.settled (a :: rest) = (i.touched a).settled rest := by
  cases a <;>
    simp only [Interface.settled, Interface.touched, Action.status?, Action.description?,
      Action.vlan?, List.filterMap_cons, List.getLast?_cons, Option.getD_some, Option.map_some]
  case accessVlan vlan => cases (rest.filterMap Action.vlan?).getLast? <;> rfl

/-- Taken one after another, actions leave each field as the last one on it does. -/
theorem Interface.foldl_touched (i : Interface) (actions : List Action) :
    actions.foldl Interface.touched i = i.settled actions := by
  induction actions generalizing i with
  | nil => rfl
  | cons a rest ih => rw [List.foldl_cons, ih, Interface.settled_cons]

/-- Actions settle the fields in two rows as they do in one. -/
theorem Interface.settled_append (i : Interface) (a b : List Action) :
    i.settled (a ++ b) = (i.settled a).settled b := by
  simp only [← Interface.foldl_touched, List.foldl_append]

/-- Taking the same actions once more changes nothing. -/
theorem Interface.settled_settled (i : Interface) (actions : List Action) :
    (i.settled actions).settled actions = i.settled actions := by
  have hkept {α : Type} (last : Option α) (own : α) :
      last.getD (last.getD own) = last.getD own := by
    cases last <;> rfl
  simp only [Interface.settled, hkept]

/-- An action that sets no field of an interface counts for nothing. -/
theorem Interface.settled_filter_contextual (i : Interface) (actions : List Action) :
    i.settled (actions.filter (·.isContextual)) = i.settled actions := by
  induction actions generalizing i with
  | nil => rfl
  | cons a rest ih =>
    cases h : a.isContextual with
    | true => simp only [List.filter_cons, h, ite_true, Interface.settled_cons, ih]
    | false =>
      simp only [List.filter_cons, h, Bool.false_eq_true, ite_false, Interface.settled_cons, ih,
        i.touched_of_not_contextual h]

end LeafSwitch
