import LeafSwitch.Proofs.Block.Account

/-!
# Blocks applied again

What a block leaves in a field does not depend on what has been there, and which interfaces its
lines are about does not depend on what it has done to them. So a block that is applied a second
time finds everything as it would leave it: it says the same again, but the device stays as it is,
and no VLAN is new.
-/

namespace LeafSwitch

attribute [ext] Report

namespace Switch.Applies

variable {sw mid after : Switch} {block : List Directive} {t t' : Staging} {r r' : Report}

/-- Applied again, a block leaves the interfaces as it has left them. -/
theorem interfaces_again (hd : sw.device.WellFormed) (ha : sw.Applies block t r mid)
    (hb : mid.Applies block t' r' after) : after.device.interfaces = mid.device.interfaces := by
  have htouches : touches mid.device block = touches sw.device block :=
    (ha.refersAs hd).touches_eq block
  rw [hb.interfaces_eq_touches, htouches, ha.interfaces_eq_touches, List.map_map]
  refine List.map_congr_left fun i _ => ?_
  rw [Function.comp_apply, Interface.settled_id, Interface.settled_settled]

/-- Applied again, a block adds no VLAN. -/
theorem vlans_again (hd : sw.device.WellFormed) (ha : sw.Applies block t r mid)
    (hb : mid.Applies block t' r' after) : after.device.vlans = mid.device.vlans := by
  have hmid := ha.wellFormed hd
  refine (hb.wellFormed hmid).vlans_ascending.eq_of_mem_iff hmid.vlans_ascending fun v => ?_
  rw [hb.mem_vlans_iff_touches hmid, (ha.refersAs hd).touches_eq block]
  refine or_iff_left_of_imp fun hnamed => ?_
  exact (ha.mem_vlans_iff_touches hd v).mpr (Or.inr hnamed)

/-- Applied again, a block has the same told of it, except that no VLAN is new. -/
theorem report_again (hd : sw.device.WellFormed) (ha : sw.Applies block t r mid)
    (hb : mid.Applies block t' r' after) : r' = { r with created := [] } := by
  have hmid := ha.wellFormed hd
  have hrefers := ha.refersAs hd
  have hnames : Staging.namesOf mid.device (touchedIds mid.device block) =
      Staging.namesOf sw.device (touchedIds sw.device block) := by
    rw [Staging.namesOf_congr (ha.get?_name hd), touchedIds, touchedIds, hrefers.touches_eq]
  apply Report.ext
  · rw [hb.lines, ha.lines]
  · rw [hb.applied_eq, ha.applied_eq, hrefers.touches_eq]
  · rw [hb.ignored, ha.ignored, hrefers.passedFrom_eq]
  · rw [hb.namesOf_touchedIds hmid, ha.namesOf_touchedIds hd] at hnames
    exact Except.ok.inj hnames
  · refine List.eq_nil_iff_forall_not_mem.mpr fun v hv => ?_
    obtain ⟨hthere, hnew⟩ := (hb.mem_created_iff hmid v).mp hv
    rw [vlans_again hd ha hb] at hthere
    exact hnew hthere

/-- Applied again, a block says the same about the same interfaces. -/
theorem noticesOn_again (hd : sw.device.WellFormed) (ha : sw.Applies block t r mid) :
    Staging.noticesOn mid.device (governed mid.device block) =
      Staging.noticesOn sw.device (governed sw.device block) := by
  rw [← noticesOn_touches, ← noticesOn_touches, (ha.refersAs hd).touches_eq block,
    Staging.noticesOn_congr (ha.get?_name hd)]

end Switch.Applies

/-- A block that is applied a second time, from wherever it comes and whatever it is meant for,
leaves the name, the interfaces and the VLANs as they are. Its report is that of the first time,
except that no VLAN is new, and the log tells the same notices again. -/
theorem Switch.applyBlock_again {sw : Switch} (hd : sw.device.WellFormed)
    (tracker : Option Tracker) (s : Submission) (source : String) (intent : Option String) :
    ∃ r mid r' after, sw.applyBlock tracker s = .ok (r, mid) ∧
      mid.applyBlock tracker { s with source, intent } = .ok (r', after) ∧
      after.device.hostname = mid.device.hostname ∧
      after.device.interfaces = mid.device.interfaces ∧
      after.device.vlans = mid.device.vlans ∧
      r' = { r with created := [] } ∧
      ∃ entries again, mid.device.logs = sw.device.logs ++ entries ∧
        after.device.logs = mid.device.logs ++ again ∧
        again.map (·.notice) = entries.map (·.notice) := by
  obtain ⟨block, t, r, mid, hblock, happly, ha⟩ := Switch.exists_applyBlock hd tracker s
  obtain ⟨block', t', r', after, hblock', happly', hb⟩ :=
    Switch.exists_applyBlock (ha.wellFormed hd) tracker { s with source, intent }
  obtain rfl : block = block' := Except.ok.inj (hblock.symm.trans hblock')
  obtain ⟨entries, hlogs, hnotices⟩ := ha.exists_entries
  obtain ⟨again, hlogs', hnotices'⟩ := hb.exists_entries
  refine ⟨r, mid, r', after, happly, happly', hb.hostname_eq, ha.interfaces_again hd hb,
    ha.vlans_again hd hb, ha.report_again hd hb, entries, again, hlogs, hlogs', ?_⟩
  rw [hnotices', ha.noticesOn_again hd, hnotices]

/-- The block that turns puts a port into a VLAN that is new the first time, and takes it out again;
the second time the VLAN is there. -/
theorem Switch.applyBlock_again_turning :
    ∃ r mid r' after,
      Switch.applyBlock ⟨Device.twoPorts, Site.quiet⟩ none Submission.turning = .ok (r, mid) ∧
      mid.applyBlock none { Submission.turning with source := "gemini", intent := none } =
        .ok (r', after) ∧
      after.device.interfaces = mid.device.interfaces ∧
      after.device.vlans = mid.device.vlans ∧
      r.created = [20] ∧ r' = { r with created := [] } := by
  have hd : (Switch.mk Device.twoPorts Site.quiet).device.WellFormed := by decide
  obtain ⟨r, mid, r', after, happly, happly', _, hinterfaces, hvlans, hreport, _⟩ :=
    Switch.applyBlock_again hd none Submission.turning "gemini" none
  have hfirst : (Switch.applyBlock ⟨Device.twoPorts, Site.quiet⟩ none Submission.turning).map
      (·.1.created) = .ok [20] := by
    decide +kernel
  rw [happly] at hfirst
  exact ⟨r, mid, r', after, happly, happly', hinterfaces, hvlans, Except.ok.inj hfirst, hreport⟩

end LeafSwitch
