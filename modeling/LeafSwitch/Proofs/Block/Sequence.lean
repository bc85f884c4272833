import LeafSwitch.Proofs.Block.Alike

/-!
# Blocks one after the other

Behind a line that turns away from all interfaces, nothing of the lines before it is left to go on
from. So two blocks with such a line between them, applied in one, do what they do one after the
other, although the second is then not applied to the device that the first has left.
-/

namespace LeafSwitch

/-- The line that turns away. -/
def Directive.away : Directive :=
  ⟨.exit, "exit", 0⟩

/-- What two reports on blocks that were applied one after the other come to, when the blocks are
applied in one with a line between them. -/
structure Report.Joins (whole first second : Report) : Prop where
  /-- The line between the blocks is one more. -/
  lines : whole.lines = first.lines + 1 + second.lines
  /-- The same directives are applied. -/
  applied : whole.applied = first.applied + second.applied
  /-- The same directives are without effect. -/
  ignored : whole.ignored = first.ignored + second.ignored
  /-- No VLAN is new twice. -/
  created_disjoint : first.created.Disjoint second.created
  /-- The VLANs are told in ascending order, each once. -/
  created_ascending : whole.created.Pairwise (· < ·)
  /-- They are those that are new with either block. -/
  created : ∀ v, v ∈ whole.created ↔ v ∈ first.created ∨ v ∈ second.created

/-! ### Lines behind a turn away -/

/-- Behind a turn away, lines are met in the contexts that they begin a block with. -/
theorem inContext_append_away (d : Device) (context : Option String) (xs ys : List Directive) :
    ∃ left, inContext d context (xs ++ Directive.away :: ys) =
      inContext d context xs ++ (Directive.away, left) :: inContext d none ys := by
  induction xs generalizing context with
  | nil => exact ⟨context, rfl⟩
  | cons x rest ih =>
    obtain ⟨left, h⟩ := ih (x.contextAfter d context)
    refine ⟨left, ?_⟩
    rw [List.cons_append, inContext, inContext, h, List.cons_append]

/-- What is touched behind a turn away is what the lines there touch on their own. -/
theorem touches_append_away (d : Device) (xs ys : List Directive) :
    touches d (xs ++ Directive.away :: ys) = touches d xs ++ touches d ys := by
  obtain ⟨left, h⟩ := inContext_append_away d none xs ys
  rw [← touchesFrom_none, ← touchesFrom_none, ← touchesFrom_none, touchesFrom, h,
    List.filterMap_append]
  rfl

/-- What is without effect behind a turn away is so on its own. -/
theorem passedFrom_append_away (d : Device) (context : Option String) (xs ys : List Directive) :
    passedFrom d context (xs ++ Directive.away :: ys) =
      passedFrom d context xs + passedFrom d none ys := by
  obtain ⟨left, h⟩ := inContext_append_away d context xs ys
  rw [passedFrom, h, List.countP_append, List.countP_cons_of_neg Bool.false_ne_true]
  rfl

/-- The filled lines of two texts with a turn away between them. -/
theorem blockLines_append_exit (a b : String) :
    blockLines (a ++ "\nexit\n" ++ b) = blockLines a ++ "exit".toList :: blockLines b := by
  have hlist : (a ++ "\nexit\n" ++ b).toList =
      a.toList ++ '\n' :: ("exit".toList ++ '\n' :: b.toList) := by
    rw [String.toList_append, String.toList_append, List.append_assoc]
    rfl
  rw [blockLines, hlist, Text.pieces_append_cons rfl, Text.pieces_append_cons rfl,
    Text.filled_append, Text.filled_append]
  rfl

/-- Two texts with a turn away between them ask for what they ask for with it between them. -/
theorem content_append_exit {a b : String} {xs ys zs : List Directive}
    (hxs : directivesOf a = .ok xs) (hys : directivesOf b = .ok ys)
    (hzs : directivesOf (a ++ "\nexit\n" ++ b) = .ok zs) :
    zs.map Directive.content = (xs ++ Directive.away :: ys).map Directive.content := by
  obtain ⟨hlines, hactions⟩ := directivesFrom_spec hxs
  obtain ⟨hlines', hactions'⟩ := directivesFrom_spec hys
  obtain ⟨hwhole, hactions''⟩ := directivesFrom_spec hzs
  refine content_eq_of_lines hactions'' ?_ ?_
  · intro x hx
    rcases List.mem_append.mp hx with hx | hx
    · exact hactions x hx
    rcases List.mem_cons.mp hx with rfl | hx
    · decide
    · exact hactions' x hx
  · rw [hwhole, List.map_append, List.map_cons, hlines, hlines']
    have hblock := congrArg (List.map String.ofList) (blockLines_append_exit a b)
    rwa [List.map_append, List.map_cons] at hblock

/-! ### Applying blocks one after the other -/

/-- The ids touched by two blocks in one are those of the first, and those of the second that are
not among them. -/
theorem touchedIds_append_away (d : Device) (xs ys : List Directive) :
    touchedIds d (xs ++ Directive.away :: ys) =
      touchedIds d xs ++ (touchedIds d ys).filter (· ∉ touchedIds d xs) := by
  rw [touchedIds, touches_append_away, List.map_append, List.eraseDups_append, List.removeAll,
    eraseDups_filter]
  refine congrArg _ (List.filter_congr fun id _ => ?_)
  simp only [touchedIds, List.mem_eraseDups, List.elem_eq_mem, decide_not]

section

variable {sw mid after sw' once : Switch} {xs ys zs : List Directive} {t t' t'' : Staging}
  {ra rb rc : Report}

/-- Applied in one, two blocks leave a device like the one that they leave one after the other. -/
theorem Switch.Applies.alike_of_append (hd : sw.device.WellFormed) (ha : sw.Applies xs t ra mid)
    (hb : mid.Applies ys t' rb after) (hc : sw'.Applies zs t'' rc once)
    (hdevice : sw'.device = sw.device)
    (htouches : touches sw.device zs = touches sw.device xs ++ touches sw.device ys) :
    once.device.Alike after.device := by
  have hmid := ha.wellFormed hd
  have hd' : sw'.device.WellFormed := hdevice ▸ hd
  have hrefers : touches mid.device ys = touches sw.device ys := (ha.refersAs hd).touches_eq ys
  refine ⟨?_, ?_, ?_, ?_⟩
  · rw [hc.hostname_eq, hb.hostname_eq, ha.hostname_eq, hdevice]
  · rw [hc.interfaces_eq_touches, hb.interfaces_eq_touches, ha.interfaces_eq_touches, hdevice,
      List.map_map, hrefers, htouches]
    refine List.map_congr_left fun i _ => ?_
    rw [Function.comp_apply, Interface.settled_id, actionsOn_append, Interface.settled_append]
  · refine (hc.wellFormed hd').vlans_ascending.eq_of_mem_iff (hb.wellFormed hmid).vlans_ascending
      fun v => ?_
    rw [hc.mem_vlans_iff_touches hd', hb.mem_vlans_iff_touches hmid, ha.mem_vlans_iff_touches hd,
      hdevice, hrefers, htouches]
    simp only [List.mem_append, or_and_right, exists_or, or_assoc]
  · rw [hc.notices_eq_touches, hb.notices_eq_touches, ha.notices_eq_touches, hdevice, hrefers,
      htouches, Staging.noticesOn_append, List.append_assoc,
      Staging.noticesOn_congr (ha.get?_name hd)]

/-- What is told of two blocks in one is what is told of them one after the other. -/
theorem Switch.Applies.joins (hd : sw.device.WellFormed) (ha : sw.Applies xs t ra mid)
    (hb : mid.Applies ys t' rb after) (hc : sw'.Applies zs t'' rc once)
    (hdevice : sw'.device = sw.device)
    (hactions : zs.map (·.action) = (xs ++ Directive.away :: ys).map (·.action))
    (halike : once.device.Alike after.device) : rc.Joins ra rb := by
  have hmid := ha.wellFormed hd
  have hd' : sw'.device.WellFormed := hdevice ▸ hd
  have hrefers := ha.refersAs hd
  have hlength : zs.length = xs.length + 1 + ys.length := by
    have h := congrArg List.length hactions
    rw [List.length_map, List.length_map, List.length_append, List.length_cons] at h
    omega
  have htouches : touches sw.device zs = touches sw.device xs ++ touches sw.device ys := by
    rw [← touches_append_away, ← touchesFrom_none, ← touchesFrom_none, touchesFrom_congr hactions]
  have hpassed : passedFrom sw.device none zs =
      passedFrom sw.device none xs + passedFrom sw.device none ys := by
    rw [passedFrom_congr hactions, passedFrom_append_away]
  -- The VLANs before the first block are there behind it, and those there behind the second.
  have hkept : ∀ v ∈ sw.device.vlans, v ∈ mid.device.vlans :=
    fun v hv => (ha.mem_vlans_iff hd v).mpr (Or.inl hv)
  have hkept' : ∀ v ∈ mid.device.vlans, v ∈ after.device.vlans :=
    fun v hv => (hb.mem_vlans_iff hmid v).mpr (Or.inl hv)
  have hnew := ha.mem_created_iff hd
  have hnew' := hb.mem_created_iff hmid
  refine ⟨?_, ?_, ?_, ?_, ?_, fun v => ?_⟩
  · rw [hc.lines, ha.lines, hb.lines, hlength]
    omega
  · rw [hc.applied_eq, ha.applied_eq, hb.applied_eq, hrefers.touches_eq, hdevice, htouches,
      List.length_append]
    omega
  · rw [hc.ignored, ha.ignored, hb.ignored, hrefers.passedFrom_eq, hdevice, hpassed]
    omega
  · intro v hv hv'
    exact ((hnew' v).mp hv').2 ((hnew v).mp hv).1
  · rw [hc.created]
    exact pairwise_ascending _
  · rw [hnew, hnew', hc.mem_created_iff hd', halike.vlans, hdevice]
    have h := hkept v
    have h' := hkept' v
    tauto

/-- Applied in one, two blocks name the interfaces that the first names, and then those that the
second names and the first has not touched. -/
theorem Switch.Applies.exists_changed_append (hd : sw.device.WellFormed)
    (ha : sw.Applies xs t ra mid) (hb : mid.Applies ys t' rb after)
    (hc : sw'.Applies zs t'' rc once) (hdevice : sw'.device = sw.device)
    (htouches : touches sw.device zs = touches sw.device (xs ++ Directive.away :: ys)) :
    ∃ touched more : List Interface,
      touched ⊆ sw.device.interfaces ∧ more ⊆ sw.device.interfaces ∧
      touched.map (·.id) = touchedIds sw.device xs ∧
      more.map (·.id) = touchedIds mid.device ys ∧
      ra.changed = touched.map (·.name) ∧ rb.changed = more.map (·.name) ∧
      rc.changed =
        (touched ++ more.filter fun i => i.id ∉ touched.map (·.id)).map (·.name) := by
  have hd' : sw'.device.WellFormed := hdevice ▸ hd
  have hsecond : touchedIds mid.device ys = touchedIds sw.device ys := by
    rw [touchedIds, touchedIds, (ha.refersAs hd).touches_eq]
  have hwhole : touchedIds sw.device zs =
      touchedIds sw.device xs ++
        (touchedIds sw.device ys).filter (· ∉ touchedIds sw.device xs) := by
    rw [← touchedIds_append_away, touchedIds, htouches, touchedIds]
  have hfirst := ha.namesOf_touchedIds hd
  have hafter := hb.namesOf_touchedIds (ha.wellFormed hd)
  have honce := hc.namesOf_touchedIds hd'
  obtain ⟨touched, hsub, hids, hnames⟩ := exists_touched hd xs
  obtain ⟨more, hsub', hids', hnames'⟩ := exists_touched hd ys
  refine ⟨touched, more, hsub, hsub', hids, hids'.trans hsecond.symm, ?_, ?_, ?_⟩
  · exact Except.ok.inj (hfirst.symm.trans hnames)
  · rw [hsecond, Staging.namesOf_congr (ha.get?_name hd)] at hafter
    exact Except.ok.inj (hafter.symm.trans hnames')
  · have hboth : touched ++ more.filter (fun i => i.id ∉ touched.map (·.id)) ⊆
        sw.device.interfaces :=
      List.append_subset.mpr ⟨hsub, fun i hi => hsub' (List.mem_of_mem_filter hi)⟩
    have hbothIds : (touched ++ more.filter fun i => i.id ∉ touched.map (·.id)).map (·.id) =
        touchedIds sw.device zs := by
      rw [hwhole, List.map_append, hids, ← hids', List.filter_map]
      rfl
    have hbothNames := Staging.namesOf_ids hd hboth
    rw [hbothIds] at hbothNames
    rw [hdevice] at honce
    exact Except.ok.inj (honce.symm.trans hbothNames)

end

/-- Two blocks with a turn away between them, applied in one, leave a device like the one that they
leave one after the other, and whenever that is done: the same name, interfaces and VLANs, and the
same notices in its log. What is told adds up, and the interfaces told are those that the first
block touches, and those that the second touches which the first has not. -/
theorem Switch.applyBlock_append_exit {d : Device} (hd : d.WellFormed) (site site' : Site)
    (tracker : Option Tracker) (first second : Submission) :
    ∃ xs ys ra mid rb after rc once, directivesOf first.block = .ok xs ∧
      directivesOf second.block = .ok ys ∧
      Switch.applyBlock ⟨d, site⟩ tracker first = .ok (ra, mid) ∧
      mid.applyBlock tracker second = .ok (rb, after) ∧
      Switch.applyBlock ⟨d, site'⟩ tracker
        { second with block := first.block ++ "\nexit\n" ++ second.block } = .ok (rc, once) ∧
      once.device.Alike after.device ∧ rc.Joins ra rb ∧
      ∃ touched more : List Interface, touched ⊆ d.interfaces ∧ more ⊆ d.interfaces ∧
        touched.map (·.id) = touchedIds d xs ∧ more.map (·.id) = touchedIds mid.device ys ∧
        ra.changed = touched.map (·.name) ∧ rb.changed = more.map (·.name) ∧
        rc.changed =
          (touched ++ more.filter fun i => i.id ∉ touched.map (·.id)).map (·.name) := by
  have hd₁ : (Switch.mk d site).device.WellFormed := hd
  have hd₂ : (Switch.mk d site').device.WellFormed := hd
  obtain ⟨xs, t, ra, mid, hxs, happly, ha⟩ := Switch.exists_applyBlock hd₁ tracker first
  obtain ⟨ys, t', rb, after, hys, happly', hb⟩ :=
    Switch.exists_applyBlock (ha.wellFormed hd₁) tracker second
  obtain ⟨zs, t'', rc, once, hzs, happly'', hc⟩ := Switch.exists_applyBlock hd₂ tracker
    { second with block := first.block ++ "\nexit\n" ++ second.block }
  have hactions := actions_eq_of_content (content_append_exit hxs hys hzs)
  have htouches : touches d zs = touches d (xs ++ Directive.away :: ys) := by
    rw [← touchesFrom_none, ← touchesFrom_none, touchesFrom_congr hactions]
  have halike : once.device.Alike after.device :=
    ha.alike_of_append hd₁ hb hc rfl (htouches.trans (touches_append_away d xs ys))
  exact ⟨xs, ys, ra, mid, rb, after, rc, once, hxs, hys, happly, happly', happly'', halike,
    ha.joins hd₁ hb hc rfl hactions halike, ha.exists_changed_append hd₁ hb hc rfl htouches⟩

/-- The VLAN that both blocks name is new with the first of them, and the second block is begun
without an interface, although it turns to one that there is not. -/
theorem Switch.applyBlock_append_exit_turning :
    Device.twoPorts.WellFormed ∧ ∃ ra mid rb after rc once,
      Switch.applyBlock ⟨Device.twoPorts, Site.quiet⟩ none
        ⟨"interface et2\nswitchport access vlan 20", "cli", none⟩ = .ok (ra, mid) ∧
      mid.applyBlock none Submission.turning = .ok (rb, after) ∧
      Switch.applyBlock ⟨Device.twoPorts, Site.quiet⟩ none { Submission.turning with
        block := "interface et2\nswitchport access vlan 20" ++ "\nexit\n" ++
          Submission.turning.block } = .ok (rc, once) ∧
      once.device.Alike after.device ∧ rc.Joins ra rb := by
  have hd : Device.twoPorts.WellFormed := by decide
  obtain ⟨_, _, ra, mid, rb, after, rc, once, _, _, happly, happly', happly'', halike, hjoins, _⟩ :=
    Switch.applyBlock_append_exit hd Site.quiet Site.quiet none
      ⟨"interface et2\nswitchport access vlan 20", "cli", none⟩ Submission.turning
  exact ⟨hd, ra, mid, rb, after, rc, once, happly, happly', happly'', halike, hjoins⟩

end LeafSwitch
