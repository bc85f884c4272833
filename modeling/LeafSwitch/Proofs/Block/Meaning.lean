import LeafSwitch.Proofs.Block.Applied

/-!
# The meaning of a block

What a block does can be told without working through it. Each line is governed by the interface
that the lines before it have turned to last. Each field of an interface gets the value of the last
governed line on it, the VLANs named in governed lines are added, and the log tells the governed
lines that take an interface out of service or bring it back.
-/

namespace LeafSwitch

/-- What governs the lines of a block are interfaces of the device. -/
theorem holds_governor {d : Device} (hd : d.WellFormed) (earlier : List Directive) :
    d.Holds (governor? d earlier) := by
  induction earlier using List.reverseRecOn with
  | nil => exact d.holds_none
  | append_singleton earlier x ih =>
    rw [governor?_snoc]
    exact ih.contextAfter hd x

/-- Governed lines are about interfaces of the device. -/
theorem get?_of_mem_governed {d : Device} (hd : d.WellFormed) {block : List Directive}
    {t : String × Action} (h : t ∈ governed d block) : ∃ i, d.get? t.1 = some i := by
  obtain ⟨⟨x, earlier⟩, _, hx⟩ := List.mem_filterMap.mp h
  obtain ⟨id, hid, rfl⟩ := Option.map_eq_some_iff.mp hx
  exact holds_governor hd earlier id hid

/-- What the governed lines leave of an interface is decided by those that act on it. -/
theorem settled_touches (d : Device) (block : List Directive) (i : Interface) :
    i.settled (actionsOn i.id (touches d block)) =
      i.settled (actionsOn i.id (governed d block)) := by
  have hfilter : actionsOn i.id (touches d block) =
      (actionsOn i.id (governed d block)).filter (·.isContextual) := by
    rw [actionsOn, actionsOn, touches, List.filter_map, List.filter_comm]
    rfl
  rw [hfilter, Interface.settled_filter_contextual]

/-- Nothing is said about lines that act on no interface. -/
theorem noticesOn_touches (d : Device) (block : List Directive) :
    Staging.noticesOn d (touches d block) = Staging.noticesOn d (governed d block) := by
  rw [Staging.noticesOn, Staging.noticesOn, touches, List.filterMap_filter]
  apply List.filterMap_congr
  rintro ⟨id, a⟩ _
  cases a with
  | shutdown | noShutdown | describe | accessVlan => rfl
  | enter | exit | comment | ignored =>
    change none = (d.get? id).bind fun _ => none
    cases d.get? id <;> rfl

/-- Lines that put an interface into a VLAN act on it. -/
theorem mem_touches_accessVlan {d : Device} {block : List Directive} {id : String} {v : Nat} :
    (id, .accessVlan v) ∈ touches d block ↔ (id, .accessVlan v) ∈ governed d block := by
  rw [touches, List.mem_filter]
  exact and_iff_left rfl

/-- Something is said about an action exactly where it sets the state of its interface. -/
theorem Action.isSome_notice? (a : Action) (name : String) :
    (a.notice? name).isSome = a.status?.isSome := by
  cases a <;> rfl

/-- One notice is due for each action that sets the state of an interface of the device. -/
theorem length_noticesOn {d : Device} {acts : List (String × Action)}
    (h : ∀ t ∈ acts, ∃ i, d.get? t.1 = some i) :
    (Staging.noticesOn d acts).length = acts.countP (·.2.status?.isSome) := by
  induction acts with
  | nil => rfl
  | cons t rest ih =>
    obtain ⟨i, hi⟩ := h t (List.mem_cons_self ..)
    have hrest := ih fun u hu => h u (List.mem_cons_of_mem _ hu)
    have hsplit := Staging.noticesOn_append d [t] rest
    rw [List.singleton_append, Staging.noticesOn_singleton hi] at hsplit
    rw [hsplit, List.length_append, hrest, List.countP_cons, Nat.add_comm,
      ← t.2.isSome_notice? i.name]
    cases t.2.notice? i.name <;> rfl

namespace Switch.Applies

variable {sw after : Switch} {block : List Directive} {t : Staging} {r : Report}

/-- Applying a block never renames the device. -/
theorem hostname_eq (h : sw.Applies block t r after) :
    after.device.hostname = sw.device.hostname := by
  rw [h.device, Device.commit_hostname]
  rfl

/-- After a block each interface is as the governed lines leave it. -/
theorem interfaces_eq (h : sw.Applies block t r after) :
    after.device.interfaces =
      sw.device.interfaces.map fun i => i.settled (actionsOn i.id (governed sw.device block)) := by
  rw [h.device, Staging.commit_interfaces]
  refine List.map_congr_left fun i hi => ?_
  rw [h.staged.seen i hi, Staging.seen_none, settled_touches]

/-- After a block the VLANs are those of before and those noted, in ascending order. -/
theorem vlans_eq (hd : sw.device.WellFormed) (h : sw.Applies block t r after) :
    after.device.vlans = ascending (sw.device.vlans ++ t.vlans.map Int.ofNat) := by
  rw [h.device, Staging.commit_vlans hd h.staged.fits]

/-- A VLAN is there after a block if it was there before or a governed line names it. -/
theorem mem_vlans_iff (hd : sw.device.WellFormed) (h : sw.Applies block t r after) (v : Int) :
    v ∈ after.device.vlans ↔ v ∈ sw.device.vlans ∨
      ∃ n id, (id, .accessVlan n) ∈ governed sw.device block ∧ 0 < n ∧ v = Int.ofNat n := by
  rw [h.vlans_eq hd, mem_ascending, List.mem_append]
  have hnoted (n : Nat) : n ∈ t.vlans ↔
      0 < n ∧ ∃ id, (id, .accessVlan n) ∈ governed sw.device block := by
    simp only [h.staged.vlans, mem_touches_accessVlan]
    exact or_iff_right List.not_mem_nil
  constructor
  · rintro ⟨hv | hv, _⟩
    · exact Or.inl hv
    · obtain ⟨n, hn, rfl⟩ := List.mem_map.mp hv
      obtain ⟨hpos, id, hid⟩ := (hnoted n).mp hn
      exact Or.inr ⟨n, id, hid, hpos, rfl⟩
  · rintro (hv | ⟨n, id, hid, hpos, rfl⟩)
    · exact ⟨Or.inl hv, hd.vlans_pos v hv⟩
    · refine ⟨Or.inr (List.mem_map_of_mem ((hnoted n).mpr ⟨hpos, id, hid⟩)), ?_⟩
      exact Int.natCast_pos.mpr hpos

/-- A block puts the notices about its governed lines into the log, and nothing else. -/
theorem exists_entries (h : sw.Applies block t r after) :
    ∃ entries, after.device.logs = sw.device.logs ++ entries ∧
      entries.map (·.notice) = Staging.noticesOn sw.device (governed sw.device block) := by
  refine ⟨(sw.site.stampAll t.notices).1, ?_, ?_⟩
  · rw [h.device, Device.commit_logs]
    rfl
  · rw [Site.stampAll_notices, h.staged.notices, noticesOn_touches]
    exact List.nil_append _

end Switch.Applies

/-- A block is applied without a failure, and means what its governed lines say: of the lines on one
field of an interface the last one counts, every VLAN named is added, and one notice is put into the
log for each line that sets a state. -/
theorem Switch.applyBlock_meaning {sw : Switch} (hd : sw.device.WellFormed)
    (tracker : Option Tracker) (s : Submission) :
    ∃ block r after, directivesOf s.block = .ok block ∧
      sw.applyBlock tracker s = .ok (r, after) ∧
      after.device.hostname = sw.device.hostname ∧
      (after.device.interfaces = sw.device.interfaces.map fun i =>
        i.settled (actionsOn i.id (governed sw.device block))) ∧
      after.device.vlans.Pairwise (· < ·) ∧
      (∀ v, v ∈ after.device.vlans ↔ v ∈ sw.device.vlans ∨
        ∃ n id, (id, .accessVlan n) ∈ governed sw.device block ∧ 0 < n ∧ v = Int.ofNat n) ∧
      ∃ entries, after.device.logs = sw.device.logs ++ entries ∧
        entries.map (·.notice) = Staging.noticesOn sw.device (governed sw.device block) ∧
        entries.length = (governed sw.device block).countP (·.2.status?.isSome) := by
  obtain ⟨block, t, r, after, hblock, happly, h⟩ := Switch.exists_applyBlock hd tracker s
  obtain ⟨entries, hlogs, hnotices⟩ := h.exists_entries
  refine ⟨block, r, after, hblock, happly, h.hostname_eq, h.interfaces_eq, ?_, h.mem_vlans_iff hd,
    entries, hlogs, hnotices, ?_⟩
  · rw [h.vlans_eq hd]
    exact pairwise_ascending _
  · rw [← length_noticesOn fun _ => get?_of_mem_governed hd, ← hnotices, List.length_map]

/-- On a device without the second port, the first one is governed up to the line that turns away.
The VLAN it is put into first stays, although it is put into none after that. -/
theorem Switch.applyBlock_meaning_twoPorts :
    ∃ r after, Switch.applyBlock ⟨Device.twoPorts, Site.quiet⟩ none Submission.turning =
        .ok (r, after) ∧
      after.device.interfaces =
        [{ Device.ethernet1 with status := .up, vlan := 0 }, Interface.named "et2" "Ethernet2"] ∧
      20 ∈ after.device.vlans ∧
      after.device.logs.map (·.notice) =
        [⟨.warning, "ConfigAgent", "Ethernet1 disabled via AI Agent"⟩,
          ⟨.info, "ConfigAgent", "Ethernet1 enabled via AI Agent"⟩] := by
  have hd : (Switch.mk Device.twoPorts Site.quiet).device.WellFormed := by decide
  obtain ⟨block, r, after, hblock, happly, _, hinterfaces, _, hvlans, _, hlogs, hnotices, _⟩ :=
    Switch.applyBlock_meaning hd none Submission.turning
  obtain rfl := Except.ok.inj (hblock.symm.trans Submission.turning_directives)
  refine ⟨r, after, happly, ?_, ?_, ?_⟩
  · rw [hinterfaces]
    decide +kernel
  · exact (hvlans 20).mpr (Or.inr ⟨20, "et1", by decide +kernel, by decide, rfl⟩)
  · rw [hlogs]
    refine hnotices.trans ?_
    decide +kernel

end LeafSwitch
