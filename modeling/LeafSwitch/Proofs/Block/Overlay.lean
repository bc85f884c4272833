import LeafSwitch.Proofs.Block.Context
import LeafSwitch.Proofs.Block.Effect

/-!
# Staging as an overlay

What a block has staged lies over the device: an interface is seen as it is staged, or else as it is
on the device. One directive changes what is seen of at most one interface, by one action. From this
follows what a whole block stages, which is told by the actions on interfaces alone.
-/

namespace LeafSwitch

namespace Staging

/-- An interface of the device as it is seen over what is staged. -/
def seen (s : Staging) (i : Interface) : Interface :=
  (s.interfaces.find? (·.id == i.id)).getD i

/-- The ids of the interfaces staged, in the order of their first touch. -/
def ids (s : Staging) : List String :=
  s.interfaces.map (·.id)

/-- Note an id behind those noted before; one that is noted already keeps its place. -/
def mention (ids : List String) (id : String) : List String :=
  if id ∈ ids then ids else ids ++ [id]

@[simp] theorem seen_none (i : Interface) : none.seen i = i := rfl

@[simp] theorem ids_none : none.ids = [] := rfl

@[simp] theorem seen_id (s : Staging) (i : Interface) : (s.seen i).id = i.id := by
  rw [seen]
  cases h : s.interfaces.find? (·.id == i.id) with
  | none => rfl
  | some j => simpa using List.find?_some h

/-- What is seen of an interface is what is staged for it, or the interface itself. -/
theorem seen_mem_or_eq (s : Staging) (i : Interface) : s.seen i ∈ s.interfaces ∨ s.seen i = i := by
  rw [seen]
  cases h : s.interfaces.find? (·.id == i.id) with
  | none => exact Or.inr rfl
  | some j => exact Or.inl (List.mem_of_find?_eq_some h)

/-- An interface of which nothing is staged is seen as it is. -/
theorem seen_eq_self {s : Staging} {i : Interface} (h : i.id ∉ s.ids) : s.seen i = i := by
  rcases s.seen_mem_or_eq i with hm | he
  · exact absurd (List.mem_map.mpr ⟨_, hm, s.seen_id i⟩) h
  · exact he

/-- An interface of the device can be looked up by its id, and is found as it is seen. -/
theorem current?_of_get? {s : Staging} {d : Device} {id : String} {i : Interface}
    (h : d.get? id = some i) : s.current? d id = some (s.seen i) := by
  have hid : i.id = id := by simpa using List.find?_some h
  rw [current?, seen, h, hid]
  cases s.interfaces.find? (·.id == id) <;> rfl

/-- Staging an interface is seen of this interface and of no other. -/
theorem seen_put (s : Staging) (j i : Interface) :
    (s.put j).seen i = if i.id = j.id then j else s.seen i := by
  have hkeep (k : Interface) : (if k.id == j.id then j else k).id = k.id := by
    split
    · rename_i hk
      exact (beq_iff_eq.mp hk).symm
    · rfl
  rw [seen, put]
  by_cases hany : s.interfaces.any (·.id == j.id) = true
  · simp only [hany, ite_true, List.find?_map, Function.comp_def, hkeep]
    by_cases hij : i.id = j.id
    · have hsome := List.find?_isSome.mpr (List.any_eq_true.mp hany)
      obtain ⟨k, hk⟩ := Option.isSome_iff_exists.mp hsome
      have hkid : k.id = j.id := by simpa using List.find?_some hk
      simp only [hij, hk, hkid, BEq.rfl, Option.map_some, ite_true, Option.getD_some]
    · rw [if_neg hij, seen]
      cases hk : s.interfaces.find? (·.id == i.id) with
      | none => rfl
      | some k =>
        have hkid : k.id = i.id := by simpa using List.find?_some hk
        simp [hkid, hij]
  · have hnone : s.interfaces.find? (·.id == j.id) = .none := by
      simpa using hany
    simp only [hany, Bool.false_eq_true, ite_false, List.find?_append]
    by_cases hij : i.id = j.id
    · simp [hij, hnone]
    · have hji : ¬ j.id = i.id := fun h => hij h.symm
      simp [hij, hji, seen]

/-- An interface staged for the first time comes last; one staged again keeps its place. -/
theorem ids_put (s : Staging) (j : Interface) :
    (s.put j).ids = mention s.ids j.id := by
  have hmem : s.interfaces.any (·.id == j.id) = true ↔ j.id ∈ s.ids := by
    simp [ids]
  by_cases hj : j.id ∈ s.ids
  · rw [mention, if_pos hj, ids, put, ids]
    dsimp only
    rw [if_pos (hmem.mpr hj), List.map_map]
    refine List.map_congr_left fun k _ => ?_
    by_cases hk : k.id = j.id <;> simp [hk]
  · rw [mention, if_neg hj, ids, put, ids]
    dsimp only
    rw [if_neg (mt hmem.mp hj), List.map_append, List.map_singleton]

/-- Staging an interface brings in nothing else. -/
theorem mem_put {s : Staging} {j k : Interface} (h : k ∈ (s.put j).interfaces) :
    k = j ∨ k ∈ s.interfaces := by
  rw [put] at h
  dsimp only at h
  split at h
  · obtain ⟨m, hm, rfl⟩ := List.mem_map.mp h
    split
    · exact Or.inl rfl
    · exact Or.inr hm
  · rcases List.mem_append.mp h with hm | hm
    · exact Or.inr hm
    · exact Or.inl (List.mem_singleton.mp hm)

/-- What is seen is decided by the interfaces staged. -/
theorem seen_congr {s t : Staging} (h : s.interfaces = t.interfaces) : s.seen = t.seen := by
  funext i
  rw [seen, seen, h]

@[simp] theorem join_interfaces (s : Staging) (vlan : Nat) :
    (s.join vlan).interfaces = s.interfaces := by
  rw [join]
  split <;> rfl

@[simp] theorem join_notices (s : Staging) (vlan : Nat) : (s.join vlan).notices = s.notices := by
  rw [join]
  split <;> rfl

/-- A VLAN is noted unless it is zero. -/
theorem mem_join {s : Staging} {vlan v : Nat} :
    v ∈ (s.join vlan).vlans ↔ v ∈ s.vlans ∨ 0 < v ∧ v = vlan := by
  rw [join]
  split
  · rename_i h
    simp only [Bool.or_eq_true, decide_eq_true_eq, List.contains_iff_mem] at h
    constructor
    · exact Or.inl
    · rintro (hv | ⟨hpos, rfl⟩)
      · exact hv
      · exact h.resolve_left hpos.ne'
  · rename_i h
    simp only [Bool.or_eq_true, decide_eq_true_eq, not_or] at h
    rw [List.mem_append, List.mem_singleton]
    constructor
    · rintro (hv | rfl)
      · exact Or.inl hv
      · exact Or.inr ⟨Nat.pos_of_ne_zero h.1, rfl⟩
    · rintro (hv | ⟨_, rfl⟩)
      · exact Or.inl hv
      · exact Or.inr rfl

/-- An action on an interface stages it as the action leaves it. -/
theorem touch_interfaces (s : Staging) (i : Interface) {a : Action} (h : a.isContextual = true) :
    (s.touch i a).interfaces = (s.put (i.touched a)).interfaces := by
  cases a with
  | shutdown | noShutdown | describe => rfl
  | accessVlan vlan => exact join_interfaces _ vlan
  | enter | exit | comment | ignored => contradiction

/-- An action says what is to be said about it behind all that was said before. -/
theorem touch_notices (s : Staging) (i : Interface) (a : Action) :
    (s.touch i a).notices = s.notices ++ (a.notice? i.name).toList := by
  cases a with
  | shutdown | noShutdown => rfl
  | accessVlan vlan =>
    rw [touch, join_notices]
    exact (List.append_nil _).symm
  | describe | enter | exit | comment | ignored => exact (List.append_nil _).symm

/-- An action notes the VLAN it puts an interface into. -/
theorem mem_touch_vlans {s : Staging} {i : Interface} {a : Action} {v : Nat} :
    v ∈ (s.touch i a).vlans ↔ v ∈ s.vlans ∨ 0 < v ∧ a = .accessVlan v := by
  cases a with
  | accessVlan vlan =>
    rw [touch, mem_join, Action.accessVlan.injEq, eq_comm (a := vlan)]
    rfl
  | shutdown | noShutdown | describe | enter | exit | comment | ignored =>
    simp only [reduceCtorEq, and_false, or_false]
    rfl

/-- Actions are counted by the one who takes them, not by what they do. -/
theorem touch_applied (s : Staging) (i : Interface) (a : Action) :
    (s.touch i a).applied = s.applied := by
  cases a with
  | accessVlan vlan =>
    rw [touch, join]
    split <;> rfl
  | shutdown | noShutdown | describe | enter | exit | comment | ignored => rfl

/-- No action is a line without effect. -/
theorem touch_ignored (s : Staging) (i : Interface) (a : Action) :
    (s.touch i a).ignored = s.ignored := by
  cases a with
  | accessVlan vlan =>
    rw [touch, join]
    split <;> rfl
  | shutdown | noShutdown | describe | enter | exit | comment | ignored => rfl

end Staging

end LeafSwitch
