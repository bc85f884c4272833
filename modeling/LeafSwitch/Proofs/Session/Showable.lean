import LeafSwitch.Proofs.Block.Account
import LeafSwitch.Proofs.Block.Lines
import LeafSwitch.Proofs.Number.Bounds
import LeafSwitch.Proofs.Session.Run

/-!
# VLANs that can be written out

A VLAN with too many digits cannot be written out. Lines name no VLANs, blocks name only such as
have been read, and notices and samples leave VLANs alone. So a device whose VLANs can be written
out stays one, as long as no update brings in others.
-/

namespace LeafSwitch

/-- The VLANs of a device can be written out. -/
def Device.Showable (d : Device) : Prop :=
  ∀ v ∈ d.vlans, v < Value.shownLimit

/-- The VLANs that an update brings in can be written out. -/
structure Update.Showable (u : Update) : Prop where
  /-- Those that it adds. -/
  vlans : ∀ v ∈ u.vlans, v < Value.shownLimit
  /-- Those that interfaces are put into. -/
  interfaces : ∀ p ∈ u.interfaces, p.2.vlan < Value.shownLimit

/-- An operation brings in no VLANs that cannot be written out. -/
def Operation.Showable : Operation → Prop
  | .update u => u.Showable
  | _ => True

namespace Device.WellFormed

variable {d : Device}

/-- The VLANs of a well-formed device are positive, so their sizes are below the limit too. -/
theorem natAbs_lt (hd : d.WellFormed) (h : d.Showable) :
    ∀ v ∈ d.vlans, v.natAbs < Value.shownLimit := by
  intro v hv
  have hpos := hd.vlans_pos v hv
  have hlt := h v hv
  omega

/-- The VLAN of an interface is one of the device, or none. -/
theorem vlan_lt (hd : d.WellFormed) (h : d.Showable) {i : Interface} (hi : i ∈ d.interfaces) :
    i.vlan < Value.shownLimit := by
  by_cases hpos : 0 < i.vlan
  · exact h _ (hd.vlans_cover i hi hpos)
  · have hle : i.vlan ≤ 0 := Int.not_lt.mp hpos
    have hlimit : (1 : Int) < Value.shownLimit := Int.ofNat_lt.mpr Number.one_lt_shownLimit
    omega

/-- An update that brings in VLANs that can be written out leaves such VLANs. -/
theorem commit_showable (hd : d.WellFormed) (h : d.Showable) {u : Update} (hu : u.Showable) :
    (d.commit u).Showable := by
  intro v hv
  rw [hd.commit_vlans, mem_reconcileVlans] at hv
  rcases hv.1 with hmem | ⟨i, hi, rfl⟩
  · exact (List.mem_append.mp hmem).elim (h v) (hu.vlans v)
  · rcases Device.mem_or_of_mem_commit hi with hold | ⟨p, hp, rfl⟩
    · exact hd.vlan_lt h hold
    · exact hu.interfaces p hp

end Device.WellFormed

/-- What a command changes brings in no VLAN. -/
theorem Command.change?_showable {d : Device} (hd : d.WellFormed) (h : d.Showable) {c : Command}
    {change : Change} (hc : c.change? d = some change) (logs : List LogEntry) :
    (change.update logs).Showable := by
  cases c with
  | setStatus ref status severity =>
    obtain ⟨i, hfind, rfl⟩ := Option.map_eq_some_iff.mp hc
    refine ⟨fun v hv => absurd hv List.not_mem_nil, fun p hp => ?_⟩
    obtain rfl := List.mem_singleton.mp hp
    have hi : i.vlan < Value.shownLimit := hd.vlan_lt h (Device.mem_of_find? hfind)
    exact hi
  | setHostname name =>
    obtain rfl := Option.some.inj hc
    exact ⟨fun v hv => absurd hv List.not_mem_nil, fun p hp => absurd hp List.not_mem_nil⟩
  | nothing | showInterfaces | showVlans | showVersion | showLog | showOther | configure | help
  | unknown => nomatch hc

/-- A line keeps the VLANs such as can be written out. -/
theorem Switch.interpret_showable {sw : Switch} (hd : sw.device.WellFormed)
    (h : sw.device.Showable) (line : String) : (sw.interpret line).2.device.Showable := by
  rw [sw.interpret_device_eq]
  cases hc : (Command.ofLine line).change? sw.device with
  | none => exact h
  | some change =>
    exact hd.commit_showable h (Command.change?_showable hd h hc _)

/-- What governed lines ask for is asked for by directives of the block. -/
theorem exists_of_mem_governed {d : Device} {block : List Directive} {t : String × Action}
    (h : t ∈ governed d block) : ∃ x ∈ block, x.action = t.2 := by
  obtain ⟨⟨x, earlier⟩, hzip, hx⟩ := List.mem_filterMap.mp h
  obtain ⟨id, _, rfl⟩ := Option.map_eq_some_iff.mp hx
  exact ⟨x, (List.of_mem_zip hzip).1, rfl⟩

namespace Switch.Applies

variable {sw after : Switch} {block : List Directive} {t : Staging} {r : Report}

/-- A VLAN that is new after a block can be written out, for the block names only such. -/
theorem lt_of_new (hd : sw.device.WellFormed) (h : sw.Applies block t r after) {text : String}
    (hblock : directivesOf text = .ok block) {v : Int} (hv : v ∈ after.device.vlans)
    (hnew : v ∉ sw.device.vlans) : v < Value.shownLimit := by
  rcases (h.mem_vlans_iff hd v).mp hv with hold | ⟨n, id, hmem, _, rfl⟩
  · exact absurd hold hnew
  · obtain ⟨x, hx, haction⟩ := exists_of_mem_governed hmem
    have hline := (directivesFrom_spec hblock).2 x hx
    rw [haction] at hline
    exact Int.ofNat_lt.mpr (lt_of_lineAction hline)

/-- A block leaves VLANs that can be written out. -/
theorem showable (hd : sw.device.WellFormed) (h : sw.Applies block t r after)
    (hs : sw.device.Showable) {text : String} (hblock : directivesOf text = .ok block) :
    after.device.Showable := by
  intro v hv
  by_cases hold : v ∈ sw.device.vlans
  · exact hs v hold
  · exact h.lt_of_new hd hblock hv hold

/-- What a report tells of VLANs can be written out. -/
theorem created_natAbs_lt (hd : sw.device.WellFormed) (h : sw.Applies block t r after)
    {text : String} (hblock : directivesOf text = .ok block) :
    ∀ v ∈ r.created, v.natAbs < Value.shownLimit := by
  intro v hv
  rw [h.created_eq hd] at hv
  obtain ⟨hmem, hnew⟩ := List.mem_filter.mp hv
  have hwf : after.device.WellFormed := h.wellFormed hd
  have hpos := hwf.vlans_pos v hmem
  have hnot : v ∉ sw.device.vlans := by
    rwa [Bool.not_eq_true', List.contains_eq_mem, decide_eq_false_iff_not] at hnew
  have hlt := h.lt_of_new hd hblock hmem hnot
  omega

end Switch.Applies

end LeafSwitch
