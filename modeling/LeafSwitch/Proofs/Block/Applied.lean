import LeafSwitch.Block.Apply
import LeafSwitch.Proofs.Block.Reading
import LeafSwitch.Proofs.Block.Staged
import LeafSwitch.Proofs.Data.Steps
import LeafSwitch.Proofs.Site.Stamps

/-!
# What applying a block comes to

Applying a block to a well-formed device never fails: its lines are read, what they do to interfaces
is staged, and the device makes one update of it. The interfaces become as they are seen over what
is staged, and the VLANs become those of before and those noted.
-/

namespace LeafSwitch

namespace Staging

/-- Committing what is staged replaces each interface by what is seen of it. -/
theorem replace_change (s : Staging) (logs : List LogEntry) (i : Interface) :
    (s.change.update logs).replace i = s.seen i := by
  have hlookup : (s.interfaces.map fun j => (j.id, j)).lookup i.id =
      s.interfaces.find? (·.id == i.id) := by
    induction s.interfaces with
    | nil => rfl
    | cons j rest ih => simp only [List.map_cons, List.lookup_cons, List.find?_cons, ih,
        BEq.comm (a := i.id)]
  rw [Update.replace, seen]
  simp only [change, Change.update, hlookup]
  cases hf : s.interfaces.find? (·.id == i.id) with
  | none => rfl
  | some j =>
    have hid : j.id = i.id := by simpa using List.find?_some hf
    simp only [← hid, Option.getD_some]

/-- Committed interfaces are as they are seen over what is staged. -/
theorem commit_interfaces (s : Staging) (d : Device) (logs : List LogEntry) :
    (d.commit (s.change.update logs)).interfaces = d.interfaces.map s.seen := by
  rw [Device.commit_interfaces]
  exact List.map_congr_left fun i _ => s.replace_change logs i

/-- Committed VLANs are those of before and those noted: an interface adds none of its own. -/
theorem commit_vlans {s : Staging} {d : Device} (hd : d.WellFormed) (hs : s.Fits d)
    (logs : List LogEntry) :
    (d.commit (s.change.update logs)).vlans = ascending (d.vlans ++ s.vlans.map Int.ofNat) := by
  rw [hd.commit_vlans, commit_interfaces, reconcileVlans]
  refine ascending_append_covered fun v hv hpos => ?_
  simp only [List.map_map, List.mem_map, Function.comp_apply] at hv
  obtain ⟨i, hi, rfl⟩ := hv
  exact List.mem_append.mpr (hs.seen_vlan hd hi hpos)

/-- Ids of a device have names, which are found in their order. -/
theorem namesOf_eq {d : Device} {ids : List String} (h : ∀ id ∈ ids, ∃ i, d.get? id = some i) :
    ∃ found : List Interface, namesOf d ids = .ok (found.map (·.name)) ∧
      found.map (·.id) = ids ∧ found ⊆ d.interfaces := by
  induction ids with
  | nil => exact ⟨[], rfl, rfl, List.nil_subset _⟩
  | cons id rest ih =>
    obtain ⟨i, hi⟩ := h id (List.mem_cons_self ..)
    obtain ⟨found, hnames, hids, hsub⟩ := ih fun k hk => h k (List.mem_cons_of_mem _ hk)
    refine ⟨i :: found, ?_, ?_, List.cons_subset.mpr ⟨List.mem_of_find?_eq_some hi, hsub⟩⟩
    · rw [namesOf, hi, hnames]
      rfl
    · rw [List.map_cons, hids]
      exact congrArg (· :: rest) (by simpa using List.find?_some hi)

end Staging

/-- A block that turns to a port, to one that there may not be, and away from all. -/
def Submission.turning : Submission :=
  ⟨Text.join "\n" ["interface ET1", "shutdown", "switchport access vlan 20", "interface et9",
    "switchport access vlan 0", "no shutdown", "! done", "exit", "shutdown"], "cli", none⟩

/-- The directives of the block that turns. -/
theorem Submission.turning_directives : directivesOf turning.block = .ok
    [⟨.enter "ET1", "interface ET1", 1⟩, ⟨.shutdown, "shutdown", 2⟩,
      ⟨.accessVlan 20, "switchport access vlan 20", 3⟩, ⟨.enter "et9", "interface et9", 4⟩,
      ⟨.accessVlan 0, "switchport access vlan 0", 5⟩, ⟨.noShutdown, "no shutdown", 6⟩,
      ⟨.comment, "! done", 7⟩, ⟨.exit, "exit", 8⟩, ⟨.shutdown, "shutdown", 9⟩] := by
  decide +kernel

/-- What applying a block to a switch comes to, where `t` is what the block has staged. -/
structure Switch.Applies (sw : Switch) (block : List Directive) (t : Staging) (r : Report)
    (after : Switch) : Prop where
  /-- The block is worked through. -/
  run : Staging.run sw.device none .none block = .ok t
  /-- What the block does to interfaces is staged. -/
  staged : Staging.Continues sw.device .none (touches sw.device block) t
  /-- The device makes one update of it, with the notices put on record. -/
  device : after.device = sw.device.commit (t.change.update (sw.site.stampAll t.notices).1)
  /-- The interfaces staged are named. -/
  changed : ∃ found : List Interface, r.changed = found.map (·.name) ∧ found.map (·.id) = t.ids ∧
    found ⊆ after.device.interfaces
  /-- The directives are counted. -/
  lines : r.lines = block.length
  /-- Those applied are counted. -/
  applied : r.applied = t.applied
  /-- Those without effect are counted. -/
  ignored : r.ignored = passedFrom sw.device none block
  /-- The VLANs noted are told, as far as they are new. -/
  created : r.created = t.created sw.device

/-- A block leaves a well-formed device well-formed. -/
theorem Switch.Applies.wellFormed {sw after : Switch} {block : List Directive} {t : Staging}
    {r : Report} (h : sw.Applies block t r after) (hd : sw.device.WellFormed) :
    after.device.WellFormed := by
  rw [h.device]
  exact hd.commit _

/-- What has been applied of directives was staged, and committed with the details told before. -/
theorem Switch.exists_of_applyStaged {sw after : Switch} {block : List Directive} {r : Report}
    (h : sw.applyStaged block = .ok (r, after)) :
    ∃ t, Staging.run sw.device none .none block = .ok t ∧ r.lines = block.length ∧
      after = Switch.perform
        ⟨sw.device, sw.site.reportAll (t.details.map (Site.Record.debug blockChannel))⟩
        t.change := by
  obtain ⟨t, hrun, hcommitted⟩ := bind_eq_ok_iff.mp h
  obtain ⟨changed, _, hreported⟩ := bind_eq_ok_iff.mp hcommitted
  obtain ⟨rfl, rfl⟩ := Prod.mk.inj (Except.ok.inj hreported)
  exact ⟨t, hrun, rfl, rfl⟩

/-- What has been applied of a block was read and staged; it was told of, and filed where there is
someone to file it. -/
theorem Switch.exists_of_applyBlock {sw told : Switch} {tracker : Option Tracker} {s : Submission}
    {r : Report} (h : sw.applyBlock tracker s = .ok (r, told)) :
    ∃ block after, directivesOf s.block = .ok block ∧
      Switch.applyStaged ⟨sw.device, sw.site.tick.2⟩ block = .ok (r, after) ∧
      told = Switch.track
        ⟨after.device,
          (after.site.finish "config_apply" sw.device.hostname sw.site.tick.1 none []).report
            (.info blockChannel ("Applied config block from " ++ s.source ++ ": " ++ r.summary))⟩
        tracker s r := by
  obtain ⟨block, hblock, hread⟩ := bind_eq_ok_iff.mp h
  obtain ⟨⟨_, after⟩, hstaged, htold⟩ := bind_eq_ok_iff.mp hread
  obtain ⟨rfl, rfl⟩ := Prod.mk.inj (Except.ok.inj htold)
  exact ⟨block, after, mapError_eq_ok_iff.mp hblock, hstaged, rfl⟩

/-- A report on a block counts its directives. -/
theorem Switch.lines_of_applyBlock {sw after : Switch} {tracker : Option Tracker} {s : Submission}
    {r : Report} (h : sw.applyBlock tracker s = .ok (r, after)) {directives : List Directive}
    (hdirectives : directivesOf s.block = .ok directives) : r.lines = directives.length := by
  obtain ⟨block, _, hblock, hstaged, _⟩ := Switch.exists_of_applyBlock h
  obtain ⟨_, _, hlines, _⟩ := Switch.exists_of_applyStaged hstaged
  rw [hdirectives] at hblock
  rw [hlines, Except.ok.inj hblock]

/-- Directives are staged and committed without a failure. -/
theorem Switch.exists_applyStaged {sw : Switch} (hd : sw.device.WellFormed)
    (block : List Directive) :
    ∃ t r after, sw.applyStaged block = .ok (r, after) ∧ sw.Applies block t r after := by
  obtain ⟨t, hrun, hcont, hignored⟩ :=
    Staging.run_continues hd (Staging.fits_none sw.device) sw.device.holds_none block
  rw [touchesFrom_none] at hcont
  let site := sw.site.reportAll (t.details.map (Site.Record.debug blockChannel))
  have hsite : site.StampsAs sw.site := Site.reportAll_stampsAs ..
  let after := { sw with site }.perform t.change
  have hdevice : after.device =
      sw.device.commit (t.change.update (sw.site.stampAll t.notices).1) :=
    congrArg (fun logs => sw.device.commit (t.change.update logs)) (hsite.stampAll t.notices).1
  have hknown : ∀ id ∈ t.ids, ∃ i, after.device.get? id = some i := by
    intro id hid
    obtain ⟨i, hi, rfl⟩ := List.mem_map.mp hid
    obtain ⟨j, hj, _⟩ := hcont.fits.known i hi
    rw [hdevice]
    exact ⟨_, hd.get?_commit _ hj⟩
  obtain ⟨found, hnames, hids, hsub⟩ := Staging.namesOf_eq hknown
  refine ⟨t, ⟨block.length, t.applied, t.ignored, found.map (·.name), t.created sw.device⟩, after,
    ?_, hrun, hcont, hdevice, ⟨found, rfl, hids, hsub⟩, rfl, rfl, ?_, rfl⟩
  · rw [Switch.applyStaged, hrun]
    change (Staging.namesOf after.device t.ids >>= _) = _
    rw [hnames]
    rfl
  · rw [hignored]
    exact congrArg Int.ofNat (Nat.zero_add _)

/-- Filing an applied block leaves the device alone. -/
theorem Switch.track_device (sw : Switch) (tracker : Option Tracker) (s : Submission) (r : Report) :
    (sw.track tracker s r).device = sw.device := by
  cases tracker <;> rfl

/-- Applying a block never fails: its lines are read, then staged and committed. -/
theorem Switch.exists_applyBlock {sw : Switch} (hd : sw.device.WellFormed)
    (tracker : Option Tracker) (s : Submission) :
    ∃ block t r after, directivesOf s.block = .ok block ∧
      sw.applyBlock tracker s = .ok (r, after) ∧ sw.Applies block t r after := by
  obtain ⟨block, hblock, _⟩ := exists_directivesOf s.block
  let started : Switch := ⟨sw.device, sw.site.tick.2⟩
  have hstarted : started.device.WellFormed := hd
  obtain ⟨t, r, after, happly, h⟩ := Switch.exists_applyStaged hstarted block
  let site := after.site.finish "config_apply" sw.device.hostname sw.site.tick.1 none []
  let told := { after with site }.report
    (.info blockChannel ("Applied config block from " ++ s.source ++ ": " ++ r.summary))
  refine ⟨block, t, r, told.track tracker s r, hblock, ?_, h.run, h.staged, ?_, ?_, h.lines,
    h.applied, h.ignored, h.created⟩
  · rw [Switch.applyBlock, hblock]
    change (started.applyStaged block >>= _) = _
    rw [happly]
    rfl
  · rw [Switch.track_device]
    refine h.device.trans ?_
    rw [(sw.site.tick_stampsAs.stampAll t.notices).1]
  · rw [Switch.track_device]
    exact h.changed

/-- A block that is applied leaves a well-formed device well-formed. -/
theorem Switch.applyBlock_wellFormed {sw after : Switch} {tracker : Option Tracker}
    {s : Submission} {r : Report} (h : sw.applyBlock tracker s = .ok (r, after))
    (hd : sw.device.WellFormed) : after.device.WellFormed := by
  obtain ⟨_, _, _, _, _, happly, happlies⟩ := Switch.exists_applyBlock hd tracker s
  rw [h] at happly
  obtain ⟨rfl, rfl⟩ := Prod.mk.inj (Except.ok.inj happly)
  exact happlies.wellFormed hd

end LeafSwitch
