import LeafSwitch.Proofs.Block.Meaning

/-!
# The account of a block

A report accounts for every line of its block: a line is applied, is without effect, is a remark, or
makes a turn. What it tells of interfaces and VLANs is the difference between the device before and
the device after, and where nothing is applied there is no difference.
-/

namespace LeafSwitch

/-- Whether a line turns to an interface of the device. -/
def Directive.isEntry (d : Device) (x : Directive) : Bool :=
  match x.action with
  | .enter ref => (d.find? (some ref)).isSome
  | _ => false

/-- A line counts in exactly one way, whatever the context. -/
theorem Directive.counted_once (d : Device) (context : Option String) (x : Directive) :
    (x.touch? context).toList.length + (if x.isPassedOver d context then 1 else 0) +
      (if x.action == .comment then 1 else 0) + (if x.action == .exit then 1 else 0) +
      (if x.isEntry d then 1 else 0) = 1 := by
  obtain ⟨action, line, number⟩ := x
  cases action with
  | enter ref =>
    cases hf : d.find? (some ref) with
    | none =>
      simp only [touch?, isPassedOver, isEntry, hf]
      rfl
    | some i =>
      simp only [touch?, isPassedOver, isEntry, hf]
      rfl
  | shutdown | noShutdown | describe | accessVlan => cases context <;> rfl
  | exit | comment | ignored => rfl

/-- The lines of a block are those that touch an interface, those without effect, the remarks, and
those that make a turn. -/
theorem length_eq_counts (d : Device) (context : Option String) (block : List Directive) :
    block.length = (touchesFrom d context block).length + passedFrom d context block +
      block.countP (·.action == .comment) + block.countP (·.action == .exit) +
      block.countP (·.isEntry d) := by
  induction block generalizing context with
  | nil => rfl
  | cons x rest ih =>
    have hone := x.counted_once d context
    have hrest := ih (x.contextAfter d context)
    rw [touchesFrom_cons, passedFrom_cons, List.length_cons, List.length_append, List.countP_cons,
      List.countP_cons, List.countP_cons]
    omega

/-- One more item is kept unless it has come before. -/
theorem eraseDups_concat {α : Type} [DecidableEq α] (items : List α) (x : α) :
    (items ++ [x]).eraseDups =
      if x ∈ items then items.eraseDups else items.eraseDups ++ [x] := by
  rw [List.eraseDups_append, List.cons_removeAll]
  by_cases h : x ∈ items
  · simp [h]
  · simp [h, List.eraseDups_cons]

/-- It does not matter whether items are chosen before or after each is kept once. -/
theorem eraseDups_filter {α : Type} [DecidableEq α] (p : α → Bool) (items : List α) :
    (items.filter p).eraseDups = items.eraseDups.filter p := by
  induction items using List.reverseRecOn with
  | nil => rfl
  | append_singleton items x ih =>
    rw [eraseDups_concat, apply_ite (List.filter p), List.filter_append, List.filter_append,
      List.filter_singleton]
    cases hp : p x with
    | true =>
      have hmem : x ∈ items.filter p ↔ x ∈ items := by
        rw [List.mem_filter]
        exact and_iff_left hp
      rw [cond_true, eraseDups_concat, ih]
      simp only [hmem]
    | false => rw [cond_false, List.append_nil, List.append_nil, ih, ite_self]

/-- Noting ids one after another leaves each of them once, where it came first. -/
theorem Staging.foldl_mention (ids : List String) : ids.foldl mention [] = ids.eraseDups := by
  induction ids using List.reverseRecOn with
  | nil => rfl
  | append_singleton ids id ih =>
    rw [List.foldl_append, ih, eraseDups_concat, List.foldl_cons, List.foldl_nil, mention]
    by_cases h : id ∈ ids
    · rw [if_pos (List.mem_eraseDups.mpr h), if_pos h]
    · rw [if_neg (mt List.mem_eraseDups.mp h), if_neg h]

/-- The ids of the interfaces that a block touches, in the order of their first touch. -/
def touchedIds (d : Device) (block : List Directive) : List String :=
  ((touches d block).map (·.1)).eraseDups

/-- What a block touches are interfaces of the device. -/
theorem exists_touched {d : Device} (hd : d.WellFormed) (block : List Directive) :
    ∃ touched : List Interface, touched ⊆ d.interfaces ∧
      touched.map (·.id) = touchedIds d block ∧
      Staging.namesOf d (touchedIds d block) = .ok (touched.map (·.name)) := by
  have hknown : ∀ id ∈ touchedIds d block, ∃ i, d.get? id = some i := by
    intro id hid
    obtain ⟨u, hu, rfl⟩ := List.mem_map.mp (List.mem_eraseDups.mp hid)
    exact get?_of_mem_governed hd (List.mem_filter.mp hu).1
  obtain ⟨touched, hnames, hids, hsub⟩ := Staging.namesOf_eq hknown
  exact ⟨touched, hsub, hids, hnames⟩

/-- Names are decided by where ids lead. -/
theorem Staging.namesOf_congr {d e : Device}
    (h : ∀ id, (d.get? id).map (·.name) = (e.get? id).map (·.name)) (ids : List String) :
    namesOf d ids = namesOf e ids := by
  induction ids with
  | nil => rfl
  | cons id rest ih =>
    have hid := h id
    rw [namesOf, namesOf, ih]
    cases hd : d.get? id with
    | none =>
      rw [hd, Option.map_none, eq_comm, Option.map_eq_none_iff] at hid
      rw [hid]
    | some i =>
      rw [hd, Option.map_some, eq_comm, Option.map_eq_some_iff] at hid
      obtain ⟨j, hj, hname⟩ := hid
      rw [hj]
      dsimp only
      rw [hname]

/-- What is to be said about actions is decided by the names that ids lead to. -/
theorem Staging.noticesOn_congr {d e : Device}
    (h : ∀ id, (d.get? id).map (·.name) = (e.get? id).map (·.name))
    (acts : List (String × Action)) : noticesOn d acts = noticesOn e acts := by
  rw [noticesOn, noticesOn]
  refine List.filterMap_congr fun act _ => ?_
  have hbind : ∀ found : Option Interface,
      (found.bind fun i => act.2.notice? i.name) = (found.map (·.name)).bind act.2.notice? := by
    intro found
    cases found <;> rfl
  dsimp only
  rw [hbind, hbind, h act.1]

/-- Interfaces of a device are named by their ids. -/
theorem Staging.namesOf_ids {d : Device} (hd : d.WellFormed) {found : List Interface}
    (h : found ⊆ d.interfaces) : namesOf d (found.map (·.id)) = .ok (found.map (·.name)) := by
  induction found with
  | nil => rfl
  | cons i rest ih =>
    obtain ⟨hi, hrest⟩ := List.cons_subset.mp h
    have hget : d.get? i.id = some i := hd.get?_eq_some_iff.mpr ⟨hi, rfl⟩
    rw [List.map_cons, namesOf, hget, ih hrest]
    rfl

namespace Switch.Applies

variable {sw after : Switch} {block : List Directive} {t : Staging} {r : Report}

/-- Each line that touches an interface is applied. -/
theorem applied_eq (h : sw.Applies block t r after) :
    r.applied = (touches sw.device block).length := by
  rw [h.applied, h.staged.applied]
  exact congrArg Int.ofNat (Nat.zero_add _)

/-- Every line is accounted for. -/
theorem lines_eq (h : sw.Applies block t r after) :
    r.lines = r.applied + r.ignored + block.countP (·.action == .comment) +
      block.countP (·.action == .exit) + block.countP (·.isEntry sw.device) := by
  have hcounts := length_eq_counts sw.device none block
  rw [touchesFrom_none] at hcounts
  rw [h.lines, h.applied_eq, h.ignored]
  omega

/-- The interfaces staged are those touched, in the order of their first touch. -/
theorem ids_eq (h : sw.Applies block t r after) :
    t.ids = ((touches sw.device block).map (·.1)).eraseDups := by
  rw [h.staged.ids, Staging.ids_none, Staging.foldl_mention]

/-- After a block a device has its interfaces as they are seen over what was staged. -/
theorem get?_eq (hd : sw.device.WellFormed) (h : sw.Applies block t r after) {i : Interface}
    (hi : i ∈ sw.device.interfaces) : after.device.get? i.id = some (t.seen i) := by
  have hget : sw.device.get? i.id = some i := hd.get?_eq_some_iff.mpr ⟨hi, rfl⟩
  rw [h.device, hd.get?_commit _ hget, Staging.replace_change]

/-- After a block a device has its interfaces as they are seen over what was staged. -/
theorem interfaces_seen (h : sw.Applies block t r after) :
    after.device.interfaces = sw.device.interfaces.map t.seen := by
  rw [h.device, Staging.commit_interfaces]

/-- A block leaves the interfaces their names. -/
theorem get?_name (hd : sw.device.WellFormed) (h : sw.Applies block t r after) (id : String) :
    (after.device.get? id).map (·.name) = (sw.device.get? id).map (·.name) := by
  rw [Device.get?_map h.interfaces_seen fun i _ => t.seen_id i]
  cases hfound : sw.device.get? id with
  | none => rfl
  | some i => exact congrArg some (h.staged.fits.seen_name hd (List.mem_of_find?_eq_some hfound))

/-- After a block the same texts refer to the same interfaces. -/
theorem refersAs (hd : sw.device.WellFormed) (h : sw.Applies block t r after) :
    after.device.RefersAs sw.device := by
  intro ref
  rw [Device.find?_map h.interfaces_seen fun i hi =>
    ⟨t.seen_id i, h.staged.fits.seen_name hd hi⟩, Option.map_map]
  exact congrArg (Option.map · _) (funext t.seen_id)

/-- The report names the interfaces touched. -/
theorem namesOf_touchedIds (hd : sw.device.WellFormed) (h : sw.Applies block t r after) :
    Staging.namesOf sw.device (touchedIds sw.device block) = .ok r.changed := by
  obtain ⟨found, hchanged, hids, hsub⟩ := h.changed
  have hnames := Staging.namesOf_ids (h.wellFormed hd) hsub
  rw [hids, h.ids_eq, ← hchanged, Staging.namesOf_congr (h.get?_name hd)] at hnames
  exact hnames

/-- An interface that the report does not name is as it was. -/
theorem get?_of_not_changed (hd : sw.device.WellFormed) (h : sw.Applies block t r after)
    {i : Interface} (hi : i ∈ sw.device.interfaces) (hname : i.name ∉ r.changed) :
    after.device.get? i.id = some i := by
  obtain ⟨found, hchanged, hids, hsub⟩ := h.changed
  have hwf : after.device.WellFormed := h.wellFormed hd
  have hstaged : i.id ∉ t.ids := by
    intro hmem
    rw [← hids] at hmem
    obtain ⟨j, hj, hid⟩ := List.mem_map.mp hmem
    have hget : after.device.get? i.id = some j := hwf.get?_eq_some_iff.mpr ⟨hsub hj, hid⟩
    have hji : j.name = i.name := by
      rw [h.get?_eq hd hi] at hget
      rw [← Option.some.inj hget, h.staged.fits.seen_name hd hi]
    rw [hchanged, ← hji] at hname
    exact hname (List.mem_map_of_mem hj)
  rw [h.get?_eq hd hi, Staging.seen_eq_self hstaged]

/-- The report tells the VLANs that are new on the device. -/
theorem created_eq (hd : sw.device.WellFormed) (h : sw.Applies block t r after) :
    r.created = after.device.vlans.filter fun v => !sw.device.vlans.contains v := by
  rw [h.created, Staging.created, h.vlans_eq hd]
  have hafter := (pairwise_ascending (sw.device.vlans ++ t.vlans.map Int.ofNat)).filter
    fun v => !sw.device.vlans.contains v
  refine (pairwise_ascending _).eq_of_mem_iff hafter fun v => ?_
  simp only [mem_ascending, List.mem_filter, List.mem_append, Bool.not_eq_true',
    List.contains_eq_mem, decide_eq_false_iff_not]
  tauto

/-- A VLAN is told if it is there after the block and has not been there before. -/
theorem mem_created_iff (hd : sw.device.WellFormed) (h : sw.Applies block t r after) (v : Int) :
    v ∈ r.created ↔ v ∈ after.device.vlans ∧ v ∉ sw.device.vlans := by
  rw [h.created_eq hd, List.mem_filter, Bool.not_eq_true', List.contains_eq_mem,
    decide_eq_false_iff_not]

/-- What touches an interface settles it. -/
theorem interfaces_eq_touches (h : sw.Applies block t r after) :
    after.device.interfaces =
      sw.device.interfaces.map fun i => i.settled (actionsOn i.id (touches sw.device block)) := by
  rw [h.interfaces_eq]
  exact List.map_congr_left fun i _ => (settled_touches sw.device block i).symm

/-- The VLANs that are new are those that touched interfaces are put into. -/
theorem mem_vlans_iff_touches (hd : sw.device.WellFormed) (h : sw.Applies block t r after)
    (v : Int) :
    v ∈ after.device.vlans ↔ v ∈ sw.device.vlans ∨
      ∃ n id, (id, .accessVlan n) ∈ touches sw.device block ∧ 0 < n ∧ v = Int.ofNat n := by
  rw [h.mem_vlans_iff hd]
  simp only [mem_touches_accessVlan]

/-- What is to be said about the touches stands behind the log. -/
theorem notices_eq_touches (h : sw.Applies block t r after) :
    after.device.logs.map (·.notice) =
      sw.device.logs.map (·.notice) ++ Staging.noticesOn sw.device (touches sw.device block) := by
  obtain ⟨_, hlogs, hnotices⟩ := h.exists_entries
  rw [hlogs, List.map_append, hnotices, noticesOn_touches]

/-- One entry is put into the log for each line applied that sets a state. -/
theorem exists_entries_of_touches (hd : sw.device.WellFormed) (h : sw.Applies block t r after) :
    ∃ entries, after.device.logs = sw.device.logs ++ entries ∧
      entries.length = (touches sw.device block).countP (·.2.status?.isSome) := by
  obtain ⟨entries, hlogs, hnotices⟩ := h.exists_entries
  have hknown : ∀ u ∈ touches sw.device block, ∃ i, sw.device.get? u.1 = some i :=
    fun _ hu => get?_of_mem_governed hd (List.mem_filter.mp hu).1
  refine ⟨entries, hlogs, ?_⟩
  rw [← length_noticesOn hknown, noticesOn_touches, ← hnotices, List.length_map]

/-- Where nothing is applied, nothing is staged and the device is as it was. -/
theorem device_of_noChange (h : sw.Applies block t r after) (hr : r.noChange = true) :
    after.device = sw.device := by
  have hnone : touches sw.device block = [] := by
    rw [Report.noChange, beq_iff_eq, h.applied_eq] at hr
    exact List.length_eq_zero_iff.mp (Int.natCast_eq_zero.mp hr)
  have hstaged := h.staged
  rw [hnone] at hstaged
  have hinterfaces : t.interfaces = [] := List.map_eq_nil_iff.mp hstaged.ids
  have hvlans : t.vlans = [] := by
    refine List.eq_nil_iff_forall_not_mem.mpr fun v hv => ?_
    rcases (hstaged.vlans v).mp hv with hv | ⟨_, id, hid⟩
    · exact List.not_mem_nil hv
    · exact List.not_mem_nil hid
  have hnotices : t.notices = [] := hstaged.notices
  rw [h.device, Staging.change, hinterfaces, hvlans, hnotices]
  rfl

end Switch.Applies

/-- A report is true: it counts the lines of the block and accounts for each, names the interfaces
touched, once each and in the order of their first touch, and tells exactly the VLANs that are new.
What it does not name is as before, and one entry is in the log for each line that sets a state. -/
theorem Switch.applyBlock_account {sw : Switch} (hd : sw.device.WellFormed)
    (tracker : Option Tracker) (s : Submission) :
    ∃ block r after, directivesOf s.block = .ok block ∧
      sw.applyBlock tracker s = .ok (r, after) ∧
      r.lines = (filledLines s.block).length ∧
      r.lines = r.applied + r.ignored + block.countP (·.action == .comment) +
        block.countP (·.action == .exit) + block.countP (·.isEntry sw.device) ∧
      r.applied = (touches sw.device block).length ∧
      (∃ touched : List Interface, r.changed = touched.map (·.name) ∧
        touched.map (·.id) = ((touches sw.device block).map (·.1)).eraseDups ∧
        touched ⊆ after.device.interfaces) ∧
      (∀ i ∈ sw.device.interfaces, i.name ∉ r.changed → after.device.get? i.id = some i) ∧
      (r.created = after.device.vlans.filter fun v => !sw.device.vlans.contains v) ∧
      r.created.Pairwise (· < ·) ∧
      (∃ entries, after.device.logs = sw.device.logs ++ entries ∧
        entries.length = (touches sw.device block).countP (·.2.status?.isSome) ∧
        entries.length ≤ r.applied) ∧
      (r.noChange = true → after.device = sw.device) := by
  obtain ⟨block, t, r, after, hblock, happly, h⟩ := Switch.exists_applyBlock hd tracker s
  obtain ⟨_, hread, hlength⟩ := exists_directivesOf s.block
  obtain rfl := Except.ok.inj (hblock.symm.trans hread)
  obtain ⟨touched, hchanged, hids, hsub⟩ := h.changed
  obtain ⟨entries, hlogs, hcount⟩ := h.exists_entries_of_touches hd
  have hle : entries.length ≤ (touches sw.device block).length := by
    rw [hcount]
    exact List.countP_le_length
  refine ⟨block, r, after, hblock, happly, ?_, h.lines_eq, h.applied_eq,
    ⟨touched, hchanged, hids.trans h.ids_eq, hsub⟩, fun i hi => h.get?_of_not_changed hd hi,
    h.created_eq hd, ?_, ⟨entries, hlogs, hcount, ?_⟩, h.device_of_noChange⟩
  · rw [h.lines, hlength]
  · rw [h.created]
    exact pairwise_ascending _
  · rw [h.applied_eq]
    exact Int.ofNat_le.mpr hle

/-- Of nine lines four are applied and two are without effect: the turn to a port that there is not,
and what is asked for after the turn away. The rest are a remark and the two turns. -/
theorem Switch.applyBlock_account_twoPorts :
    ∃ r after, Switch.applyBlock ⟨Device.twoPorts, Site.quiet⟩ none Submission.turning =
        .ok (r, after) ∧
      r.lines = 9 ∧ r.applied = 4 ∧ r.ignored = 2 ∧
      r.created = after.device.vlans.filter fun v => !Device.twoPorts.vlans.contains v := by
  have hd : (Switch.mk Device.twoPorts Site.quiet).device.WellFormed := by decide
  obtain ⟨block, r, after, hblock, happly, hlines, hsum, happlied, _, _, hcreated, _⟩ :=
    Switch.applyBlock_account hd none Submission.turning
  have hblock' := Except.ok.inj (hblock.symm.trans Submission.turning_directives)
  have hremarks : block.countP (·.action == .comment) = 1 := by
    rw [hblock']
    decide
  have hexits : block.countP (·.action == .exit) = 1 := by
    rw [hblock']
    decide
  have hentries : block.countP (·.isEntry (Switch.mk Device.twoPorts Site.quiet).device) = 1 := by
    rw [hblock']
    decide +kernel
  have hnine : r.lines = 9 := hlines.trans (by decide +kernel)
  have hfour : r.applied = 4 := by
    rw [happlied, hblock']
    decide +kernel
  exact ⟨r, after, happly, hnine, hfour, by omega, hcreated⟩

end LeafSwitch
