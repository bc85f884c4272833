import LeafSwitch.Proofs.Device.Vlans
import Mathlib.Data.List.Find

/-!
# Well-formed devices

Building a device makes its ids distinct and its VLANs an ascending list that covers the interfaces.
Every update keeps this, whatever it asks for, and takes nothing back: the ids stay as they are, and
the VLANs and the log only grow.
-/

namespace LeafSwitch

/-- What holds of a device from its building on. -/
structure Device.WellFormed (d : Device) : Prop where
  /-- No two interfaces share an id. -/
  ids_nodup : (d.interfaces.map (·.id)).Nodup
  /-- The VLANs stand in ascending order, each once. -/
  vlans_ascending : d.vlans.Pairwise (· < ·)
  /-- Zero and negative numbers are no VLANs. -/
  vlans_pos : ∀ v ∈ d.vlans, 0 < v
  /-- The VLAN of an interface, if it has one, is a VLAN of the device. -/
  vlans_cover : ∀ i ∈ d.interfaces, 0 < i.vlan → i.vlan ∈ d.vlans

instance (d : Device) : Decidable d.WellFormed :=
  decidable_of_iff
    ((d.interfaces.map (·.id)).Nodup ∧ d.vlans.Pairwise (· < ·) ∧ (∀ v ∈ d.vlans, 0 < v) ∧
      ∀ i ∈ d.interfaces, 0 < i.vlan → i.vlan ∈ d.vlans)
    ⟨fun ⟨hi, ha, hp, hc⟩ => ⟨hi, ha, hp, hc⟩, fun h => ⟨h.1, h.2, h.3, h.4⟩⟩

/-- Reconciling the VLANs of a well-formed device again changes nothing. -/
theorem Device.WellFormed.reconcileVlans_self {d : Device} (h : d.WellFormed) :
    reconcileVlans d.vlans d.interfaces = d.vlans := by
  refine (pairwise_reconcileVlans _ _).eq_of_mem_iff h.vlans_ascending fun v => ?_
  rw [mem_reconcileVlans]
  constructor
  · rintro ⟨hv | ⟨i, hi, rfl⟩, hpos⟩
    · exact hv
    · exact h.vlans_cover i hi hpos
  · intro hv
    exact ⟨Or.inl hv, h.vlans_pos v hv⟩

/-- Distinct ids and reconciled VLANs make a well-formed device. -/
theorem Device.wellFormed_of_reconciled {d : Device} (hids : (d.interfaces.map (·.id)).Nodup)
    {vlans : List Int} (hvlans : d.vlans = reconcileVlans vlans d.interfaces) : d.WellFormed where
  ids_nodup := hids
  vlans_ascending := hvlans ▸ pairwise_reconcileVlans _ _
  vlans_pos v hv := by
    rw [hvlans, mem_reconcileVlans] at hv
    exact hv.2
  vlans_cover i hi hpos := by
    rw [hvlans, mem_reconcileVlans]
    exact ⟨Or.inr ⟨i, hi, rfl⟩, hpos⟩

/-- What a device is built from is found in it, its VLANs reconciled. -/
theorem Device.build_eq_ok_iff {hostname : String} {interfaces : List Interface} {vlans : List Int}
    {logs : List LogEntry} {d : Device} :
    Device.build hostname interfaces vlans logs = .ok d ↔
      (interfaces.map (·.id)).Nodup ∧
        d = ⟨hostname, interfaces, reconcileVlans vlans interfaces, logs⟩ := by
  rw [Device.build]
  by_cases hn : (interfaces.map (·.id)).Nodup
  · simp only [hn, ite_true, true_and, Except.ok.injEq, eq_comm]
  · simp only [hn, ite_false, false_and, reduceCtorEq]

/-- The well-formed devices are exactly those that building yields. -/
theorem Device.wellFormed_iff_build {d : Device} :
    d.WellFormed ↔ Device.build d.hostname d.interfaces d.vlans d.logs = .ok d := by
  rw [Device.build_eq_ok_iff]
  constructor
  · intro h
    exact ⟨h.ids_nodup, by rw [h.reconcileVlans_self]⟩
  · rintro ⟨hn, hd⟩
    exact Device.wellFormed_of_reconciled hn (congrArg Device.vlans hd)

/-- A device that has been built is well-formed. -/
theorem Device.build_wellFormed {hostname : String} {interfaces : List Interface}
    {vlans : List Int} {logs : List LogEntry} {d : Device}
    (h : Device.build hostname interfaces vlans logs = .ok d) : d.WellFormed := by
  obtain ⟨hn, rfl⟩ := Device.build_eq_ok_iff.mp h
  exact Device.wellFormed_of_reconciled hn rfl

/-- A first port, in a VLAN of its own. -/
def Device.ethernet1 : Interface := { Interface.named "et1" "Ethernet1" with vlan := 10 }

/-- A device with two ports. -/
def Device.twoPorts : Device :=
  ⟨"leaf1", [ethernet1, Interface.named "et2" "Ethernet2"], [1, 10, 30], []⟩

/-- Building the device with two ports puts its VLANs in order and leaves out what is none. -/
theorem Device.twoPorts_build :
    Device.build "leaf1" Device.twoPorts.interfaces [30, -4, 30] [] = .ok Device.twoPorts := by
  decide

/-- An id stands for one interface only. -/
theorem Device.WellFormed.eq_of_id_eq {d : Device} (h : d.WellFormed) {i j : Interface}
    (hi : i ∈ d.interfaces) (hj : j ∈ d.interfaces) (hid : i.id = j.id) : i = j :=
  List.inj_on_of_nodup_map h.ids_nodup hi hj hid

/-- Looking up an id finds the interface that has it. -/
theorem Device.WellFormed.get?_eq_some_iff {d : Device} (h : d.WellFormed) {id : String}
    {i : Interface} : d.get? id = some i ↔ i ∈ d.interfaces ∧ i.id = id := by
  rw [Device.get?]
  constructor
  · intro hf
    exact ⟨List.mem_of_find?_eq_some hf, by simpa using List.find?_some hf⟩
  · rintro ⟨hi, rfl⟩
    cases hf : d.interfaces.find? (·.id == i.id) with
    | none => simpa using List.find?_eq_none.mp hf i hi
    | some j =>
      have hj : j.id = i.id := by simpa using List.find?_some hf
      rw [h.eq_of_id_eq (List.mem_of_find?_eq_some hf) hi hj]

/-- A text can only refer to an interface of the device. -/
theorem Device.mem_of_find? {d : Device} {ref : Option String} {i : Interface}
    (h : d.find? ref = some i) : i ∈ d.interfaces := by
  cases ref with
  | none => simp [Device.find?] at h
  | some text =>
    rw [Device.find?] at h
    split at h
    · contradiction
    · exact List.mem_of_find?_eq_some h

/-- An interface that has its id still is found under it. -/
theorem Device.get?_map {d e : Device} {f : Interface → Interface}
    (hf : e.interfaces = d.interfaces.map f) (hid : ∀ i ∈ d.interfaces, (f i).id = i.id)
    (id : String) : e.get? id = (d.get? id).map f := by
  have hsame : ∀ i ∈ d.interfaces, ((·.id == id) ∘ f) i = (i.id == id) := by
    intro i hi
    rw [Function.comp_apply, hid i hi]
  rw [Device.get?, Device.get?, hf, List.find?_map, List.find?_congr hsame]

/-- The texts that refer to an interface are those that refer to it under its id and name. -/
theorem Device.find?_map {d e : Device} {f : Interface → Interface}
    (hf : e.interfaces = d.interfaces.map f)
    (hkept : ∀ i ∈ d.interfaces, (f i).id = i.id ∧ (f i).name = i.name) (ref : Option String) :
    e.find? ref = (d.find? ref).map f := by
  cases ref with
  | none => rfl
  | some text =>
    have hanswers : ∀ i ∈ d.interfaces, ((·.answersTo text) ∘ f) i = i.answersTo text := by
      intro i hi
      obtain ⟨hid, hname⟩ := hkept i hi
      rw [Function.comp_apply, Interface.answersTo, Interface.answersTo, hid, hname]
    rw [Device.find?, Device.find?]
    by_cases hempty : text.isEmpty = true
    · rw [if_pos hempty, if_pos hempty, Option.map_none]
    · rw [if_neg hempty, if_neg hempty, hf, List.find?_map, List.find?_congr hanswers]

/-- An update that counts as empty is the one that changes nothing. -/
theorem Update.eq_none_of_isEmpty {u : Update} (h : u.isEmpty = true) : u = .none := by
  obtain ⟨hostname, interfaces, vlans, logs⟩ := u
  simp only [Update.isEmpty, Bool.and_eq_true, Option.isNone_iff_eq_none,
    List.isEmpty_iff] at h
  obtain ⟨⟨⟨rfl, rfl⟩, rfl⟩, rfl⟩ := h
  rfl

/-- A replacement takes over the id, whatever id it came with. -/
@[simp] theorem Update.replace_id (u : Update) (i : Interface) : (u.replace i).id = i.id := by
  rw [Update.replace]
  split <;> rfl

/-- Replacing a single interface leaves the others alone. -/
theorem Update.replace_single {u : Update} {new : Interface} (hu : u.interfaces = [(new.id, new)])
    (i : Interface) : u.replace i = if i.id = new.id then new else i := by
  rw [Update.replace, hu, List.lookup_cons, List.lookup_nil]
  by_cases h : i.id = new.id
  · simp only [h, BEq.rfl, ite_true]
  · simp only [beq_false_of_ne h, if_neg h]

/-- Replacing never changes which ids there are, nor their order. -/
@[simp] theorem Update.map_replace_ids (u : Update) (l : List Interface) :
    (l.map u.replace).map (·.id) = l.map (·.id) := by
  rw [List.map_map]
  exact List.map_congr_left fun i _ => u.replace_id i

/-- A committed name is the new one, if there is one. -/
theorem Device.commit_hostname (d : Device) (u : Update) :
    (d.commit u).hostname = u.hostname.getD d.hostname := by
  rw [Device.commit]
  split
  · rename_i h
    rw [Update.eq_none_of_isEmpty h]
    rfl
  · rfl

/-- Committed interfaces are the old ones, each replaced in its place. -/
theorem Device.commit_interfaces (d : Device) (u : Update) :
    (d.commit u).interfaces = d.interfaces.map u.replace := by
  rw [Device.commit]
  split
  · rename_i h
    rw [Update.eq_none_of_isEmpty h]
    exact (List.map_id' d.interfaces).symm
  · rfl

/-- Behind an update there are interfaces from before it, and replacements under ids of such. -/
theorem Device.mem_or_of_mem_commit {d : Device} {u : Update} {i : Interface}
    (hi : i ∈ (d.commit u).interfaces) :
    i ∈ d.interfaces ∨ ∃ p ∈ u.interfaces, i = { p.2 with id := p.1 } := by
  rw [Device.commit_interfaces] at hi
  obtain ⟨old, hold, rfl⟩ := List.mem_map.mp hi
  rw [Update.replace]
  cases hlookup : u.interfaces.lookup old.id with
  | none => exact Or.inl hold
  | some new =>
    obtain ⟨before, after, hsplit, _⟩ := List.lookup_eq_some_iff.mp hlookup
    refine Or.inr ⟨(old.id, new), ?_, rfl⟩
    rw [hsplit]
    exact List.mem_append_right _ List.mem_cons_self

/-- A committed log is the old one with the new entries behind it. -/
theorem Device.commit_logs (d : Device) (u : Update) : (d.commit u).logs = d.logs ++ u.logs := by
  rw [Device.commit]
  split
  · rename_i h
    rw [Update.eq_none_of_isEmpty h]
    exact (List.append_nil d.logs).symm
  · rfl

/-- Committed VLANs are the old ones, the added ones and those of the interfaces, reconciled. -/
theorem Device.WellFormed.commit_vlans {d : Device} (h : d.WellFormed) (u : Update) :
    (d.commit u).vlans = reconcileVlans (d.vlans ++ u.vlans) (d.commit u).interfaces := by
  rw [Device.commit]
  split
  · rename_i hu
    rw [Update.eq_none_of_isEmpty hu]
    simp only [Update.none, List.append_nil, h.reconcileVlans_self]
  · rfl

/-- An update keeps a device well-formed. -/
theorem Device.WellFormed.commit {d : Device} (h : d.WellFormed) (u : Update) :
    (d.commit u).WellFormed := by
  refine Device.wellFormed_of_reconciled ?_ (h.commit_vlans u)
  rw [Device.commit_interfaces, Update.map_replace_ids]
  exact h.ids_nodup

/-- An interface that a device has under an id is there under it after an update. -/
theorem Device.WellFormed.get?_commit {d : Device} (hd : d.WellFormed) (u : Update) {id : String}
    {i : Interface} (h : d.get? id = some i) : (d.commit u).get? id = some (u.replace i) := by
  obtain ⟨hmem, rfl⟩ := hd.get?_eq_some_iff.mp h
  refine (hd.commit u).get?_eq_some_iff.mpr ⟨?_, u.replace_id i⟩
  rw [Device.commit_interfaces]
  exact List.mem_map_of_mem hmem

/-- A log entry keeps a device well-formed. -/
theorem Device.WellFormed.append {d : Device} (h : d.WellFormed) (e : LogEntry) :
    (d.append e).WellFormed :=
  ⟨h.ids_nodup, h.vlans_ascending, h.vlans_pos, h.vlans_cover⟩

/-- What a device keeps of an earlier state of itself. -/
structure Device.Extends (later earlier : Device) : Prop where
  /-- The ids are the same, in the same order. -/
  ids : later.interfaces.map (·.id) = earlier.interfaces.map (·.id)
  /-- No VLAN is lost. -/
  vlans : earlier.vlans ⊆ later.vlans
  /-- The log is continued. -/
  logs : earlier.logs <+: later.logs

/-- A device keeps itself. -/
theorem Device.Extends.refl (d : Device) : d.Extends d :=
  ⟨rfl, List.Subset.refl _, List.prefix_refl _⟩

/-- What is kept through two stretches is kept through both. -/
theorem Device.Extends.trans {c d e : Device} (hd : d.Extends c) (he : e.Extends d) :
    e.Extends c :=
  ⟨he.ids.trans hd.ids, List.Subset.trans hd.vlans he.vlans, hd.logs.trans he.logs⟩

/-- An update takes nothing back. -/
theorem Device.WellFormed.commit_extends {d : Device} (h : d.WellFormed) (u : Update) :
    (d.commit u).Extends d where
  ids := by rw [Device.commit_interfaces, Update.map_replace_ids]
  vlans v hv := by
    rw [h.commit_vlans, mem_reconcileVlans]
    exact ⟨Or.inl (List.mem_append_left _ hv), h.vlans_pos v hv⟩
  logs := by
    rw [Device.commit_logs]
    exact List.prefix_append ..

/-- A log entry takes nothing back. -/
theorem Device.append_extends (d : Device) (e : LogEntry) : (d.append e).Extends d :=
  ⟨rfl, List.Subset.refl _, List.prefix_append ..⟩

end LeafSwitch
