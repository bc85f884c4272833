import LeafSwitch.Block.Staging
import LeafSwitch.Proofs.Device.WellFormed
import Mathlib.Data.List.Infix

/-!
# The interface a line is about

A block turns from interface to interface, and a line is about the one it has turned to last. Which
one that is can be told from the lines before it alone. Working through a block carries the answer
along instead, and the two agree on every line.
-/

namespace LeafSwitch

/-- The turn a line makes, if it makes one: to an interface, given by its id, or away from all. A
line that refers to no interface of the device makes none. -/
def Directive.turn? (d : Device) (x : Directive) : Option (Option String) :=
  match x.action with
  | .enter ref => (d.find? (some ref)).map fun i => some i.id
  | .exit => some none
  | _ => none

/-- The id of the interface that governs what follows some lines: the last turn among them, if it
is one to an interface. -/
def governor? (d : Device) (earlier : List Directive) : Option String :=
  (earlier.filterMap (·.turn? d)).getLast?.join

/-- What the governed lines of a block ask for, in order, each with the id of its interface. -/
def governed (d : Device) (block : List Directive) : List (String × Action) :=
  (block.zip block.inits).filterMap fun (x, earlier) =>
    (governor? d earlier).map fun id => (id, x.action)

/-- The actions on one interface, out of those on all. -/
def actionsOn (id : String) (acts : List (String × Action)) : List Action :=
  (acts.filter (·.1 == id)).map (·.2)

theorem actionsOn_append (id : String) (a b : List (String × Action)) :
    actionsOn id (a ++ b) = actionsOn id a ++ actionsOn id b := by
  rw [actionsOn, List.filter_append, List.map_append, actionsOn, actionsOn]

theorem actionsOn_singleton (id k : String) (a : Action) :
    actionsOn k [(id, a)] = if id = k then [a] else [] := by
  by_cases h : id = k <;> simp [actionsOn, h]

/-- What the governed lines ask for that act on their interface. -/
def touches (d : Device) (block : List Directive) : List (String × Action) :=
  (governed d block).filter (·.2.isContextual)

/-- The context behind a line, from the one before it. -/
def Directive.contextAfter (d : Device) (context : Option String) (x : Directive) : Option String :=
  (x.turn? d).getD context

/-- What a line does to the interface in context. -/
def Directive.touch? (context : Option String) (x : Directive) : Option (String × Action) :=
  if x.action.isContextual then context.map fun id => (id, x.action) else none

/-- Whether a line has no effect for want of an interface or of a meaning. -/
def Directive.isPassedOver (d : Device) (context : Option String) (x : Directive) : Bool :=
  match x.action with
  | .enter ref => (d.find? (some ref)).isNone
  | .exit | .comment => false
  | .ignored => true
  | _ => context.isNone

/-- The lines of a block, each with the context it is met in. -/
def inContext (d : Device) : Option String → List Directive → List (Directive × Option String)
  | _, [] => []
  | context, x :: rest => (x, context) :: inContext d (x.contextAfter d context) rest

/-- What a block does to interfaces when it is begun in some context. -/
def touchesFrom (d : Device) (context : Option String) (block : List Directive) :
    List (String × Action) :=
  (inContext d context block).filterMap fun (x, c) => x.touch? c

/-- The lines without effect of a block that is begun in some context. -/
def passedFrom (d : Device) (context : Option String) (block : List Directive) : Nat :=
  (inContext d context block).countP fun (x, c) => x.isPassedOver d c

theorem touchesFrom_cons (d : Device) (context : Option String) (x : Directive)
    (rest : List Directive) :
    touchesFrom d context (x :: rest) =
      (x.touch? context).toList ++ touchesFrom d (x.contextAfter d context) rest := by
  rw [touchesFrom, inContext, List.filterMap_cons]
  cases h : x.touch? context <;> simp only [h, Option.toList, List.nil_append, List.cons_append] <;>
    rfl

theorem passedFrom_cons (d : Device) (context : Option String) (x : Directive)
    (rest : List Directive) :
    passedFrom d context (x :: rest) =
      (if x.isPassedOver d context then 1 else 0) +
        passedFrom d (x.contextAfter d context) rest := by
  rw [passedFrom, inContext, List.countP_cons, Nat.add_comm]
  rfl

/-- One more line changes the governor exactly as it changes the context. -/
theorem governor?_snoc (d : Device) (earlier : List Directive) (x : Directive) :
    governor? d (earlier ++ [x]) = x.contextAfter d (governor? d earlier) := by
  rw [governor?, Directive.contextAfter, List.filterMap_append]
  cases h : x.turn? d with
  | none => simp only [List.filterMap_cons, h, List.filterMap_nil, List.append_nil, governor?,
      Option.getD_none]
  | some turn => simp only [List.filterMap_cons, h, List.filterMap_nil, List.getLast?_concat,
      Option.join_some, Option.getD_some]

/-- The context carried along is the governor that the lines before determine. -/
theorem inContext_governor (d : Device) (earlier block : List Directive) :
    inContext d (governor? d earlier) block =
      block.zip (block.inits.map fun more => governor? d (earlier ++ more)) := by
  induction block generalizing earlier with
  | nil => rfl
  | cons x rest ih =>
    rw [inContext, ← governor?_snoc, ih, List.inits_cons, List.map_cons, List.zip_cons_cons,
      List.append_nil, List.map_map]
    simp only [Function.comp_def, List.append_assoc, List.singleton_append]

/-- A block is begun without an interface, so its own lines decide what governs each of them. -/
theorem inContext_none (d : Device) (block : List Directive) :
    inContext d none block = block.zip (block.inits.map (governor? d)) :=
  inContext_governor d [] block

/-- What working through a block touches are its governed lines that act on their interface. -/
theorem touchesFrom_none (d : Device) (block : List Directive) :
    touchesFrom d none block = touches d block := by
  rw [touchesFrom, inContext_none, touches, governed, List.zip_map_right, List.filterMap_map,
    List.filter_filterMap]
  refine List.filterMap_congr fun (x, earlier) _ => ?_
  simp only [Function.comp_apply, Prod.map_apply, id_eq, Directive.touch?]
  cases governor? d earlier with
  | none => simp only [Option.map_none, Option.filter_none, ite_self]
  | some id => simp only [Option.map_some, Option.filter_some]

/-- Directives that ask for the same are met in the same contexts. -/
theorem map_inContext_congr {d : Device} {context : Option String} {xs ys : List Directive}
    (h : xs.map (·.action) = ys.map (·.action)) :
    (inContext d context xs).map (fun p => (p.1.action, p.2)) =
      (inContext d context ys).map fun p => (p.1.action, p.2) := by
  induction xs generalizing context ys with
  | nil =>
    rw [List.map_nil, eq_comm, List.map_eq_nil_iff] at h
    rw [h]
  | cons x xs ih =>
    cases ys with
    | nil => exact absurd h (List.cons_ne_nil _ _)
    | cons y ys =>
      have haction : x.action = y.action := (List.cons.inj h).1
      have hafter : x.contextAfter d context = y.contextAfter d context := by
        rw [Directive.contextAfter, Directive.contextAfter, Directive.turn?, Directive.turn?,
          haction]
      rw [inContext, inContext, List.map_cons, List.map_cons, haction, hafter,
        ih (List.cons.inj h).2]

/-- What a block touches is decided by what its directives ask for. -/
theorem touchesFrom_congr {d : Device} {context : Option String} {xs ys : List Directive}
    (h : xs.map (·.action) = ys.map (·.action)) :
    touchesFrom d context xs = touchesFrom d context ys := by
  have hactions : ∀ zs : List Directive, touchesFrom d context zs =
      ((inContext d context zs).map fun p => (p.1.action, p.2)).filterMap
        fun p => Directive.touch? p.2 ⟨p.1, "", 0⟩ := by
    intro zs
    rw [List.filterMap_map]
    rfl
  rw [hactions xs, hactions ys, map_inContext_congr h]

/-- How many lines are without effect is decided by what the directives ask for. -/
theorem passedFrom_congr {d : Device} {context : Option String} {xs ys : List Directive}
    (h : xs.map (·.action) = ys.map (·.action)) :
    passedFrom d context xs = passedFrom d context ys := by
  have hactions : ∀ zs : List Directive, passedFrom d context zs =
      ((inContext d context zs).map fun p => (p.1.action, p.2)).countP
        fun p => Directive.isPassedOver d p.2 ⟨p.1, "", 0⟩ := by
    intro zs
    rw [List.countP_map]
    rfl
  rw [hactions xs, hactions ys, map_inContext_congr h]

/-! ### Devices with the same references -/

/-- All texts refer to interfaces with the same ids on two devices. -/
def Device.RefersAs (e d : Device) : Prop :=
  ∀ ref, (e.find? ref).map (·.id) = (d.find? ref).map (·.id)

namespace Device.RefersAs

variable {d e : Device}

theorem contextAfter_eq (h : e.RefersAs d) (context : Option String) (x : Directive) :
    x.contextAfter e context = x.contextAfter d context := by
  have hturn : x.turn? e = x.turn? d := by
    rw [Directive.turn?, Directive.turn?]
    cases x.action with
    | enter ref =>
      have hids := congrArg (Option.map some) (h (some ref))
      rwa [Option.map_map, Option.map_map] at hids
    | exit | shutdown | noShutdown | describe | accessVlan | comment | ignored => rfl
  rw [Directive.contextAfter, Directive.contextAfter, hturn]

theorem isPassedOver_eq (h : e.RefersAs d) (context : Option String) (x : Directive) :
    x.isPassedOver e context = x.isPassedOver d context := by
  rw [Directive.isPassedOver, Directive.isPassedOver]
  cases x.action with
  | enter ref =>
    have hids := congrArg Option.isNone (h (some ref))
    rwa [Option.isNone_map, Option.isNone_map] at hids
  | exit | shutdown | noShutdown | describe | accessVlan | comment | ignored => rfl

/-- The lines of a block are met in the same contexts. -/
theorem inContext_eq (h : e.RefersAs d) (context : Option String) (block : List Directive) :
    inContext e context block = inContext d context block := by
  induction block generalizing context with
  | nil => rfl
  | cons x rest ih => rw [inContext, inContext, h.contextAfter_eq, ih]

/-- A block touches the same interfaces in the same way. -/
theorem touches_eq (h : e.RefersAs d) (block : List Directive) :
    touches e block = touches d block := by
  rw [← touchesFrom_none, ← touchesFrom_none, touchesFrom, touchesFrom, h.inContext_eq]

/-- The same lines are without effect. -/
theorem passedFrom_eq (h : e.RefersAs d) (context : Option String) (block : List Directive) :
    passedFrom e context block = passedFrom d context block := by
  rw [passedFrom, passedFrom, h.inContext_eq]
  refine List.countP_congr fun p _ => ?_
  dsimp only
  rw [h.isPassedOver_eq]

end Device.RefersAs

/-- A line that acts on an interface makes no turn. -/
theorem Directive.contextAfter_of_contextual {d : Device} {context : Option String} {x : Directive}
    (h : x.action.isContextual = true) : x.contextAfter d context = context := by
  rw [Directive.contextAfter, Directive.turn?]
  cases ha : x.action <;> rw [ha] at h <;> first | rfl | contradiction

/-- A line that acts on an interface is without effect where there is none in context. -/
theorem Directive.isPassedOver_of_contextual {d : Device} {context : Option String}
    {x : Directive} (h : x.action.isContextual = true) :
    x.isPassedOver d context = context.isNone := by
  rw [Directive.isPassedOver]
  cases ha : x.action <;> rw [ha] at h <;> first | rfl | contradiction

/-- The interface in context, if there is one, is an interface of the device. -/
def Device.Holds (d : Device) (context : Option String) : Prop :=
  ∀ id ∈ context, ∃ i, d.get? id = some i

theorem Device.holds_none (d : Device) : d.Holds none :=
  fun id hid => absurd hid (Option.not_mem_none id)

/-- Turning to an interface turns to one that the device has. -/
theorem Device.Holds.contextAfter {d : Device} {context : Option String} (hc : d.Holds context)
    (hd : d.WellFormed) (x : Directive) : d.Holds (x.contextAfter d context) := by
  intro id hid
  rw [Directive.contextAfter, Directive.turn?] at hid
  cases ha : x.action with
  | enter ref =>
    simp only [ha] at hid
    cases hf : d.find? (some ref) with
    | none =>
      rw [hf] at hid
      exact hc id hid
    | some i =>
      simp only [hf, Option.map_some, Option.getD_some, Option.mem_some_iff] at hid
      exact ⟨i, hd.get?_eq_some_iff.mpr ⟨Device.mem_of_find? hf, hid⟩⟩
  | exit => simp [ha] at hid
  | _ =>
    rw [ha] at hid
    exact hc id hid

end LeafSwitch
