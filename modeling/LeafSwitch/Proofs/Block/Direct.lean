import LeafSwitch.Proofs.Block.Applied
import Mathlib.Data.List.Find

/-!
# Applying a block line by line

A block could also be applied without staging: each line acts on the device at once, as it stands by
then, in an update of its own. While a block is worked through, the device of this direct way is
always the one that committing what is staged so far would give, so both ways end in the same one.
-/

namespace LeafSwitch

attribute [ext] Device

/-- The change that an action makes to an interface by itself. -/
def Action.changeOf (i : Interface) (a : Action) : Change :=
  ⟨none, [(i.id, i.touched a)], (a.vlan?.toList.filter (0 < ·)).map Int.ofNat,
    (a.notice? i.name).toList⟩

namespace Switch

/-- Apply one line to a switch at once, where `context` is the id of the interface the block has
turned to; the result has the context for the next one. -/
def directStep (context : Option String) (sw : Switch) (x : Directive) :
    Except BlockError (Option String × Switch) :=
  match x.action with
  | .enter ref =>
    match sw.device.find? (some ref) with
    | some i => .ok (some i.id, sw)
    | none => .ok (context, sw)
  | .exit => .ok (none, sw)
  | .comment | .ignored => .ok (context, sw)
  | action =>
    match context with
    | none => .ok (context, sw)
    | some id =>
      match sw.device.get? id with
      | none => .error (.noInterface id)
      | some i => .ok (context, sw.perform (action.changeOf i))

/-- Apply lines in order, each at once. -/
def directRun (context : Option String) (sw : Switch) : List Directive → Except BlockError Switch
  | [] => .ok sw
  | x :: rest => do
    let (context, sw) ← directStep context sw x
    directRun context sw rest

/-- Apply a block line by line. -/
def applyDirect (sw : Switch) (s : Submission) : Except BlockError Switch := do
  let block ← (directivesOf s.block).mapError .line
  sw.directRun none block

/-- Applying a line that acts on an interface. -/
theorem directStep_of_contextual {context : Option String} {sw : Switch} {x : Directive}
    (h : x.action.isContextual = true) :
    directStep context sw x =
      match context with
      | none => .ok (none, sw)
      | some id =>
        match sw.device.get? id with
        | none => .error (.noInterface id)
        | some i => .ok (some id, sw.perform (x.action.changeOf i)) := by
  obtain ⟨action, line, number⟩ := x
  cases action with
  | shutdown | noShutdown | describe | accessVlan => cases context <;> rfl
  | enter | exit | comment | ignored => contradiction

end Switch

/-- An action replaces its interface as it leaves it, and no other. -/
theorem Action.replace_changeOf (i j : Interface) (a : Action) (logs : List LogEntry) :
    ((a.changeOf i).update logs).replace j = if j.id = i.id then i.touched a else j := by
  have hid : (i.touched a).id = i.id := i.touched_id a
  have hsingle : ((a.changeOf i).update logs).interfaces = [((i.touched a).id, i.touched a)] := by
    rw [hid]
    rfl
  rw [Update.replace_single hsingle, hid]

/-- An action adds the VLAN it puts an interface into. -/
theorem Action.mem_changeOf_vlans {i : Interface} {a : Action} {v : Int} :
    v ∈ (a.changeOf i).vlans ↔ ∃ n : Nat, (0 < n ∧ a = .accessVlan n) ∧ Int.ofNat n = v := by
  simp only [changeOf, List.mem_map, List.mem_filter, Option.mem_toList, decide_eq_true_eq,
    Action.vlan?_eq_some_iff, and_comm]

namespace Staging

/-- A switch at which all is done that is staged for another one. -/
structure Mirrors (base : Switch) (s : Staging) (live : Switch) : Prop where
  /-- The device is as committing what is staged would make it. -/
  device : live.device = base.device.commit (s.change.update (base.site.stampAll s.notices).1)
  /-- The next notice is put on record as it would be behind those staged. -/
  site : live.site.StampsAs (base.site.stampAll s.notices).2

variable {base live : Switch} {s : Staging}

/-- The interfaces of the mirroring device are those seen. -/
theorem Mirrors.interfaces_eq (h : Mirrors base s live) :
    live.device.interfaces = base.device.interfaces.map s.seen := by
  rw [h.device, commit_interfaces]

/-- The mirroring device has an interface under its id as it is seen. -/
theorem Mirrors.get?_eq (h : Mirrors base s live) (hd : base.device.WellFormed) {id : String}
    {i : Interface} (hi : base.device.get? id = some i) :
    live.device.get? id = some (s.seen i) := by
  rw [h.device, hd.get?_commit _ hi, replace_change]

/-- A text refers to the same interface on the mirroring device: names and ids are as before. -/
theorem Mirrors.find?_eq (h : Mirrors base s live) (hd : base.device.WellFormed)
    (hs : s.Fits base.device) (ref : String) :
    live.device.find? (some ref) = (base.device.find? (some ref)).map s.seen :=
  Device.find?_map h.interfaces_eq (fun _ hi => ⟨s.seen_id _, hs.seen_name hd hi⟩) (some ref)

/-- The VLANs of the mirroring device are those of before and those noted. -/
theorem Mirrors.vlans_eq (h : Mirrors base s live) (hd : base.device.WellFormed)
    (hs : s.Fits base.device) :
    live.device.vlans = ascending (base.device.vlans ++ s.vlans.map Int.ofNat) := by
  rw [h.device, commit_vlans hd hs]

/-- An action taken at once leaves the interfaces as they are seen once it is staged. -/
theorem Mirrors.perform_interfaces (h : Mirrors base s live) (i : Interface) {a : Action}
    (ha : a.isContextual = true) :
    (live.perform (a.changeOf (s.seen i))).device.interfaces =
      base.device.interfaces.map (s.touch (s.seen i) a).seen := by
  rw [Switch.perform_device, Device.commit_interfaces, h.interfaces_eq, List.map_map]
  refine List.map_congr_left fun j _ => ?_
  rw [Function.comp_apply, Action.replace_changeOf, seen_congr (touch_interfaces s _ ha),
    seen_put, Interface.touched_id, seen_id]

/-- An action taken at once leaves the VLANs of before and those noted once it is staged. -/
theorem Mirrors.perform_vlans (h : Mirrors base s live) (hd : base.device.WellFormed)
    (hs : s.Fits base.device) {i : Interface} (hi : i ∈ base.device.interfaces) {a : Action}
    (ha : a.isContextual = true) :
    (live.perform (a.changeOf (s.seen i))).device.vlans =
      ascending (base.device.vlans ++ (s.touch (s.seen i) a).vlans.map Int.ofNat) := by
  have hlive : live.device.WellFormed := by
    rw [h.device]
    exact hd.commit _
  have hcover : ∀ v ∈ (live.perform (a.changeOf (s.seen i))).device.interfaces.map (·.vlan),
      0 < v → v ∈ base.device.vlans ++ (s.touch (s.seen i) a).vlans.map Int.ofNat := by
    intro v hv hpos
    rw [h.perform_interfaces i ha, List.map_map] at hv
    obtain ⟨j, hj, rfl⟩ := List.mem_map.mp hv
    exact List.mem_append.mpr ((hs.touch hd hi ha).seen_vlan hd hj hpos)
  rw [← ascending_append_covered hcover]
  refine (hlive.commit_vlans _).trans (ascending_congr fun v hpos => ?_)
  have hnamed : v ∈ (a.changeOf (s.seen i)).vlans ↔
      ∃ n : Nat, (0 < n ∧ a = .accessVlan n) ∧ Int.ofNat n = v := Action.mem_changeOf_vlans
  have hnoted : v ∈ (s.touch (s.seen i) a).vlans.map Int.ofNat ↔
      v ∈ s.vlans.map Int.ofNat ∨ v ∈ (a.changeOf (s.seen i)).vlans := by
    rw [hnamed, List.mem_map, List.mem_map, ← exists_or]
    simp only [mem_touch_vlans, or_and_right]
  refine List.mem_append.trans (Iff.trans (or_congr_left ?_) List.mem_append.symm)
  rw [List.mem_append, List.mem_append, hnoted, h.vlans_eq hd hs, mem_ascending, List.mem_append,
    and_iff_left hpos, or_assoc]
  rfl

/-- An action taken at once puts on record what would be put on record behind what is staged. -/
theorem Mirrors.perform_logs (h : Mirrors base s live) (i : Interface) (a : Action) :
    (live.perform (a.changeOf (s.seen i))).device.logs =
      base.device.logs ++ (base.site.stampAll (s.touch (s.seen i) a).notices).1 := by
  have hstamps := h.site.stampAll (a.changeOf (s.seen i)).notices
  rw [Switch.perform_device, Device.commit_logs, h.device, Device.commit_logs, touch_notices,
    Site.stampAll_append, List.append_assoc]
  exact congrArg (fun entries => base.device.logs ++ (_ ++ entries)) hstamps.1

/-- Taking an action at once mirrors staging it. -/
theorem Mirrors.touch (h : Mirrors base s live) (hd : base.device.WellFormed)
    (hs : s.Fits base.device) {i : Interface} (hi : i ∈ base.device.interfaces) {a : Action}
    (ha : a.isContextual = true) :
    Mirrors base (s.touch (s.seen i) a) (live.perform (a.changeOf (s.seen i))) where
  device := by
    apply Device.ext
    · rw [Switch.perform_device, Device.commit_hostname, h.device, Device.commit_hostname,
        Device.commit_hostname]
      rfl
    · rw [h.perform_interfaces i ha, commit_interfaces]
    · rw [h.perform_vlans hd hs hi ha, commit_vlans hd (hs.touch hd hi ha)]
    · rw [h.perform_logs, Device.commit_logs]
      rfl
  site := by
    rw [touch_notices, Site.stampAll_append]
    exact (live.perform_stampsAs _).trans (h.site.stampAll _).2

/-- Staging a line and applying it at once leave the same context, and still mirror each other. -/
theorem Mirrors.step (h : Mirrors base s live) (hd : base.device.WellFormed)
    (hs : s.Fits base.device) {context : Option String} (hc : base.device.Holds context)
    (x : Directive) :
    ∃ c t after, Staging.step base.device context s x = .ok (c, t) ∧
      Switch.directStep context live x = .ok (c, after) ∧ Mirrors base t after := by
  cases hx : x.action.isContextual with
  | true =>
    rw [step_of_contextual hx, Switch.directStep_of_contextual hx]
    cases context with
    | none => exact ⟨_, _, _, rfl, rfl, h.device, h.site⟩
    | some id =>
      obtain ⟨i, hi⟩ := hc id rfl
      have hmem : i ∈ base.device.interfaces := (hd.get?_eq_some_iff.mp hi).1
      have htouch := h.touch hd hs hmem hx
      simp only [current?_of_get? hi, h.get?_eq hd hi]
      exact ⟨_, _, _, rfl, rfl, htouch.device, htouch.site⟩
  | false =>
    rw [Staging.step, Switch.directStep]
    cases ha : x.action with
    | enter ref =>
      cases hf : base.device.find? (some ref) with
      | none =>
        simp only [h.find?_eq hd hs, hf, Option.map_none]
        exact ⟨_, _, _, rfl, rfl, h.device, h.site⟩
      | some i =>
        simp only [h.find?_eq hd hs, hf, Option.map_some, seen_id]
        exact ⟨_, _, _, rfl, rfl, h⟩
    | exit | comment => exact ⟨_, _, _, rfl, rfl, h⟩
    | ignored => exact ⟨_, _, _, rfl, rfl, h.device, h.site⟩
    | shutdown | noShutdown | describe | accessVlan =>
      rw [ha] at hx
      contradiction

/-- Staging lines and applying each of them at once mirror each other to the end. -/
theorem Mirrors.run (h : Mirrors base s live) (hd : base.device.WellFormed)
    (hs : s.Fits base.device) {context : Option String} (hc : base.device.Holds context)
    (block : List Directive) :
    ∃ t after, Staging.run base.device context s block = .ok t ∧
      Switch.directRun context live block = .ok after ∧ Mirrors base t after := by
  induction block generalizing context s live with
  | nil => exact ⟨s, live, rfl, rfl, h⟩
  | cons x rest ih =>
    obtain ⟨c, t, next, hstep, hdirect, ht⟩ := h.step hd hs hc x
    obtain ⟨t', hstep', hcont, _⟩ := step_continues hd hs hc x
    obtain ⟨rfl, rfl⟩ : c = x.contextAfter base.device context ∧ t = t' := by
      rw [hstep] at hstep'
      exact Prod.mk.inj (Except.ok.inj hstep')
    obtain ⟨u, after, hrun, hdirects, hu⟩ :=
      ih ht hcont.fits (hc.contextAfter hd x)
    refine ⟨u, after, ?_, ?_, hu⟩
    · rw [Staging.run, hstep]
      exact hrun
    · rw [Switch.directRun, hdirect]
      exact hdirects

/-- A switch mirrors itself while nothing is staged. -/
theorem mirrors_none (sw : Switch) : Mirrors sw none sw := ⟨rfl, Site.StampsAs.refl _⟩

end Staging

/-- Applying a block and applying it line by line both succeed, and end in the same device. -/
theorem Switch.applyBlock_eq_applyDirect {sw : Switch} (hd : sw.device.WellFormed)
    (tracker : Option Tracker) (s : Submission) :
    ∃ r after live, sw.applyBlock tracker s = .ok (r, after) ∧ sw.applyDirect s = .ok live ∧
      after.device = live.device := by
  obtain ⟨block, t, r, after, hblock, happly, h⟩ := Switch.exists_applyBlock hd tracker s
  obtain ⟨t', live, hrun, hdirect, hmirrors⟩ :=
    (Staging.mirrors_none sw).run hd (Staging.fits_none sw.device) sw.device.holds_none block
  obtain rfl : t = t' := Except.ok.inj (h.run.symm.trans hrun)
  refine ⟨r, after, live, happly, ?_, h.device.trans hmirrors.device.symm⟩
  rw [Switch.applyDirect, hblock]
  exact hdirect

/-- Both ways agree where a VLAN is named first and taken back later. -/
theorem Switch.applyBlock_eq_applyDirect_twoPorts :
    ∃ r after live,
      Switch.applyBlock ⟨Device.twoPorts, Site.quiet⟩ none Submission.turning = .ok (r, after) ∧
      Switch.applyDirect ⟨Device.twoPorts, Site.quiet⟩ Submission.turning = .ok live ∧
      after.device = live.device :=
  Switch.applyBlock_eq_applyDirect (by decide) none Submission.turning

end LeafSwitch
