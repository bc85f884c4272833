import LeafSwitch.Proofs.Block.Account
import LeafSwitch.Proofs.Block.Lines

/-!
# Devices alike

Two devices are alike if they differ in nothing but the numbers and times of their log entries.
Blocks read neither. So blocks that touch the same interfaces in the same way leave devices alike
that have been alike, wherever they are carried out.
-/

namespace LeafSwitch

/-- Devices that differ at most in the numbers and times of their log entries. -/
structure Device.Alike (d e : Device) : Prop where
  /-- They have the same name. -/
  hostname : d.hostname = e.hostname
  /-- They have the same interfaces. -/
  interfaces : d.interfaces = e.interfaces
  /-- They have the same VLANs. -/
  vlans : d.vlans = e.vlans
  /-- Their logs tell the same notices in the same order. -/
  notices : d.logs.map (·.notice) = e.logs.map (·.notice)

namespace Device.Alike

variable {d e : Device}

theorem refl (d : Device) : d.Alike d :=
  ⟨rfl, rfl, rfl, rfl⟩

/-- References are met by the interfaces alone. -/
theorem find?_eq (h : d.Alike e) (ref : Option String) : d.find? ref = e.find? ref := by
  cases ref with
  | none => rfl
  | some text => rw [find?, find?, h.interfaces]

theorem get?_eq (h : d.Alike e) (id : String) : d.get? id = e.get? id := by
  rw [get?, get?, h.interfaces]

theorem wellFormed (h : d.Alike e) (he : e.WellFormed) : d.WellFormed where
  ids_nodup := by
    rw [h.interfaces]
    exact he.ids_nodup
  vlans_ascending := by
    rw [h.vlans]
    exact he.vlans_ascending
  vlans_pos := by
    rw [h.vlans]
    exact he.vlans_pos
  vlans_cover := by
    rw [h.interfaces, h.vlans]
    exact he.vlans_cover

/-- A change with the same notices on record leaves devices alike. -/
theorem commit (h : d.Alike e) (he : e.WellFormed) (c : Change) {a b : List LogEntry}
    (hentries : a.map (·.notice) = b.map (·.notice)) :
    (d.commit (c.update a)).Alike (e.commit (c.update b)) := by
  have hinterfaces : (d.commit (c.update a)).interfaces = (e.commit (c.update b)).interfaces := by
    rw [commit_interfaces, commit_interfaces, h.interfaces]
    rfl
  refine ⟨?_, hinterfaces, ?_, ?_⟩
  · rw [commit_hostname, commit_hostname, h.hostname]
    rfl
  · rw [(h.wellFormed he).commit_vlans, he.commit_vlans, hinterfaces, h.vlans]
    rfl
  · rw [commit_logs, commit_logs, List.map_append, List.map_append, h.notices]
    exact congrArg (e.logs.map (·.notice) ++ ·) hentries

/-- The same texts refer to the same interfaces. -/
theorem refersAs (h : d.Alike e) : d.RefersAs e :=
  fun ref => congrArg (Option.map (·.id)) (h.find?_eq ref)

/-- The same is to be said about what a block does. -/
theorem noticesOn_eq (h : d.Alike e) (acts : List (String × Action)) :
    Staging.noticesOn d acts = Staging.noticesOn e acts :=
  Staging.noticesOn_congr (fun id => congrArg (Option.map (·.name)) (h.get?_eq id)) acts

end Device.Alike

/-- Blocks that touch the same interfaces in the same way leave devices alike. -/
theorem Switch.Applies.alike {sw sw' after after' : Switch} {xs ys : List Directive}
    {t t' : Staging} {r r' : Report} (h : sw'.device.Alike sw.device) (hd : sw.device.WellFormed)
    (ha : sw.Applies xs t r after) (ha' : sw'.Applies ys t' r' after')
    (htouches : touches sw'.device ys = touches sw.device xs) :
    after'.device.Alike after.device := by
  have hd' := h.wellFormed hd
  refine ⟨?_, ?_, ?_, ?_⟩
  · rw [ha.hostname_eq, ha'.hostname_eq, h.hostname]
  · rw [ha.interfaces_eq_touches, ha'.interfaces_eq_touches, h.interfaces, htouches]
  · refine (ha'.wellFormed hd').vlans_ascending.eq_of_mem_iff (ha.wellFormed hd).vlans_ascending
      fun v => ?_
    rw [ha.mem_vlans_iff_touches hd, ha'.mem_vlans_iff_touches hd', h.vlans, htouches]
  · rw [ha.notices_eq_touches, ha'.notices_eq_touches, h.notices, htouches, h.noticesOn_eq]

/-- A submission is applied to devices alike without a failure, and leaves them alike. -/
theorem Switch.exists_applyBlock_of_alike {sw sw' : Switch} (h : sw'.device.Alike sw.device)
    (hd : sw.device.WellFormed) (tracker : Option Tracker) (s : Submission) :
    ∃ r after r' after', sw.applyBlock tracker s = .ok (r, after) ∧
      sw'.applyBlock tracker s = .ok (r', after') ∧ after'.device.Alike after.device := by
  obtain ⟨block, t, r, after, hblock, happly, ha⟩ := exists_applyBlock hd tracker s
  obtain ⟨block', t', r', after', hblock', happly', ha'⟩ :=
    exists_applyBlock (h.wellFormed hd) tracker s
  obtain rfl : block = block' := Except.ok.inj (hblock.symm.trans hblock')
  exact ⟨r, after, r', after', happly, happly', ha.alike h hd ha' (h.refersAs.touches_eq block)⟩

end LeafSwitch
