import LeafSwitch.Proofs.Block.Overlay

/-!
# What a block stages

Working through a block on a well-formed device never fails, and what it stages is told by the
actions on interfaces: how each interface is seen, which VLANs are noted, what is said, and how many
actions and how many lines without effect there were. Rows of actions are staged one behind the
other as they are staged in one row.
-/

namespace LeafSwitch

namespace Staging

/-- What is staged fits a device. -/
structure Fits (s : Staging) (d : Device) : Prop where
  /-- Only interfaces of the device are staged, under the names they have there. -/
  known : ∀ i ∈ s.interfaces, ∃ j, d.get? i.id = some j ∧ i.name = j.name
  /-- Zero is not noted as a VLAN. -/
  vlans_pos : ∀ v ∈ s.vlans, 0 < v
  /-- The VLAN of a staged interface, if it has one, is on the device or noted. -/
  vlans_cover : ∀ i ∈ s.interfaces, 0 < i.vlan → i.vlan ∈ d.vlans ∨ i.vlan ∈ s.vlans.map Int.ofNat

/-- What is to be said about actions on the interfaces of a device, in order. -/
def noticesOn (d : Device) (acts : List (String × Action)) : List Notice :=
  acts.filterMap fun (id, a) => (d.get? id).bind fun i => a.notice? i.name

/-- How a staging goes on when actions on interfaces are taken. -/
structure Continues (d : Device) (s : Staging) (acts : List (String × Action)) (t : Staging) :
    Prop where
  /-- It still fits the device. -/
  fits : t.Fits d
  /-- Each interface is seen as the actions on it settle it. -/
  seen : ∀ i ∈ d.interfaces, t.seen i = (s.seen i).settled (actionsOn i.id acts)
  /-- The interfaces acted on are staged, behind those staged before. -/
  ids : t.ids = (acts.map (·.1)).foldl mention s.ids
  /-- The VLANs that interfaces are put into are noted. -/
  vlans : ∀ v, v ∈ t.vlans ↔ v ∈ s.vlans ∨ 0 < v ∧ ∃ id, (id, .accessVlan v) ∈ acts
  /-- What is to be said about the actions is said in their order. -/
  notices : t.notices = s.notices ++ noticesOn d acts
  /-- Each action counts. -/
  applied : t.applied = s.applied + acts.length

theorem fits_none (d : Device) : none.Fits d where
  known _ hi := absurd hi List.not_mem_nil
  vlans_pos _ hv := absurd hv List.not_mem_nil
  vlans_cover _ hi := absurd hi List.not_mem_nil

/-- An interface keeps its name whatever is staged for it. -/
theorem Fits.seen_name {s : Staging} {d : Device} (hs : s.Fits d) (hd : d.WellFormed)
    {i : Interface} (hi : i ∈ d.interfaces) : (s.seen i).name = i.name := by
  rcases s.seen_mem_or_eq i with hm | he
  · obtain ⟨j, hj, hname⟩ := hs.known _ hm
    rw [s.seen_id, hd.get?_eq_some_iff] at hj
    rw [hname, hd.eq_of_id_eq hj.1 hi hj.2]
  · rw [he]

/-- The VLAN an interface is seen in, if there is one, is on the device or noted. -/
theorem Fits.seen_vlan {s : Staging} {d : Device} (hs : s.Fits d) (hd : d.WellFormed)
    {i : Interface} (hi : i ∈ d.interfaces) (hpos : 0 < (s.seen i).vlan) :
    (s.seen i).vlan ∈ d.vlans ∨ (s.seen i).vlan ∈ s.vlans.map Int.ofNat := by
  rcases s.seen_mem_or_eq i with hm | he
  · exact hs.vlans_cover _ hm hpos
  · rw [he] at hpos ⊢
    exact Or.inl (hd.vlans_cover i hi hpos)

/-- What is staged fits the device still when an action is taken on what is seen of an interface. -/
theorem Fits.touch {s : Staging} {d : Device} (hs : s.Fits d) (hd : d.WellFormed) {i : Interface}
    (hi : i ∈ d.interfaces) {a : Action} (ha : a.isContextual = true) :
    (s.touch (s.seen i) a).Fits d where
  known j hj := by
    rw [touch_interfaces s _ ha] at hj
    rcases mem_put hj with rfl | hj
    · refine ⟨i, ?_, ?_⟩
      · exact hd.get?_eq_some_iff.mpr ⟨hi, by rw [Interface.touched_id, seen_id]⟩
      · rw [Interface.touched_name, hs.seen_name hd hi]
    · exact hs.known j hj
  vlans_pos v hv := by
    rcases mem_touch_vlans.mp hv with hv | ⟨hpos, _⟩
    · exact hs.vlans_pos v hv
    · exact hpos
  vlans_cover j hj hpos := by
    have hmono : ∀ v ∈ s.vlans.map Int.ofNat, v ∈ (s.touch (s.seen i) a).vlans.map Int.ofNat :=
      fun v hv => List.map_subset _ (fun _ hn => mem_touch_vlans.mpr (Or.inl hn)) hv
    rw [touch_interfaces s _ ha] at hj
    rcases mem_put hj with rfl | hj
    · rw [Interface.touched_vlan] at hpos ⊢
      cases hv : a.vlan? with
      | none =>
        rw [hv] at hpos
        exact (hs.seen_vlan hd hi hpos).imp id (hmono _)
      | some v =>
        rw [hv] at hpos
        have hnoted := mem_touch_vlans (s := s) (i := s.seen i).mpr
          (Or.inr ⟨Int.natCast_pos.mp hpos, Action.vlan?_eq_some_iff.mp hv⟩)
        exact Or.inr (List.mem_map_of_mem hnoted)
    · exact (hs.vlans_cover j hj hpos).imp id (hmono _)

/-- An action taken on what is seen of an interface is seen of this interface and of no other. -/
theorem seen_touch {d : Device} (hd : d.WellFormed) (s : Staging) {i j : Interface}
    (hi : i ∈ d.interfaces) (hj : j ∈ d.interfaces) {a : Action} (ha : a.isContextual = true) :
    (s.touch (s.seen i) a).seen j = (s.seen j).settled (actionsOn j.id [(i.id, a)]) := by
  rw [seen_congr (touch_interfaces s _ ha), seen_put, Interface.touched_id, seen_id,
    actionsOn_singleton]
  by_cases hij : j.id = i.id
  · rw [if_pos hij, if_pos hij.symm, hd.eq_of_id_eq hj hi hij, Interface.settled_cons,
      Interface.settled_nil]
  · rw [if_neg hij, if_neg (Ne.symm hij), Interface.settled_nil]

theorem noticesOn_singleton {d : Device} {id : String} {i : Interface} (hi : d.get? id = some i)
    (a : Action) : noticesOn d [(id, a)] = (a.notice? i.name).toList := by
  rw [noticesOn, List.filterMap_cons]
  dsimp only
  rw [hi, Option.bind_some]
  cases a.notice? i.name <;> rfl

theorem noticesOn_append (d : Device) (a b : List (String × Action)) :
    noticesOn d (a ++ b) = noticesOn d a ++ noticesOn d b :=
  List.filterMap_append

/-- Without an action nothing goes on. -/
theorem Continues.refl {d : Device} {s : Staging} (hs : s.Fits d) : Continues d s [] s where
  fits := hs
  seen _ _ := rfl
  ids := rfl
  vlans v := by simp only [List.not_mem_nil, exists_false, and_false, or_false]
  notices := (List.append_nil _).symm
  applied := rfl

/-- Lines that touch no interface only change the counts and the details for the journal. -/
theorem Continues.of_same {d : Device} {s t u : Staging} {acts : List (String × Action)}
    (h : Continues d s acts t) (hi : u.interfaces = t.interfaces) (hv : u.vlans = t.vlans)
    (hn : u.notices = t.notices) (ha : u.applied = t.applied) : Continues d s acts u where
  fits := by
    refine ⟨?_, ?_, ?_⟩
    · rw [hi]
      exact h.fits.known
    · rw [hv]
      exact h.fits.vlans_pos
    · rw [hi, hv]
      exact h.fits.vlans_cover
  seen := by
    rw [seen_congr hi]
    exact h.seen
  ids := by
    rw [Staging.ids, hi]
    exact h.ids
  vlans := by
    rw [hv]
    exact h.vlans
  notices := hn.trans h.notices
  applied := ha.trans h.applied

/-- Two rows of actions, one behind the other, are staged like one row. -/
theorem Continues.trans {d : Device} {s t u : Staging} {a b : List (String × Action)}
    (h : Continues d s a t) (h' : Continues d t b u) : Continues d s (a ++ b) u where
  fits := h'.fits
  seen i hi := by
    rw [h'.seen i hi, h.seen i hi, ← Interface.settled_append, ← actionsOn_append]
  ids := by rw [h'.ids, h.ids, List.map_append, List.foldl_append]
  vlans v := by
    rw [h'.vlans, h.vlans, or_assoc, ← and_or_left, ← exists_or]
    simp only [List.mem_append]
  notices := by rw [h'.notices, h.notices, noticesOn_append, List.append_assoc]
  applied := by rw [h'.applied, h.applied, List.length_append, Nat.add_assoc]

/-- One action on an interface of the device is staged on what is seen of it. -/
theorem continues_touch {d : Device} (hd : d.WellFormed) {s : Staging} (hs : s.Fits d)
    {id : String} {i : Interface} (hi : d.get? id = some i) {a : Action}
    (ha : a.isContextual = true) :
    Continues d s [(id, a)]
      { s.touch (s.seen i) a with applied := (s.touch (s.seen i) a).applied + 1 } := by
  obtain ⟨hmem, rfl⟩ := hd.get?_eq_some_iff.mp hi
  have hfits := hs.touch hd hmem ha
  refine ⟨⟨hfits.known, hfits.vlans_pos, hfits.vlans_cover⟩, ?_, ?_, ?_, ?_, ?_⟩
  · intro j hj
    exact seen_touch hd s hmem hj ha
  · have hids : (s.touch (s.seen i) a).ids = mention s.ids i.id := by
      rw [ids, touch_interfaces s _ ha]
      exact (ids_put s _).trans (by rw [Interface.touched_id, seen_id])
    exact hids
  · intro v
    refine mem_touch_vlans.trans (or_congr_right (and_congr_right fun _ => ?_))
    simp only [List.mem_singleton, Prod.mk.injEq, exists_and_right, exists_eq, true_and, eq_comm]
  · rw [noticesOn_singleton hi, ← hs.seen_name hd hmem]
    exact touch_notices s _ a
  · exact congrArg (· + 1) (s.touch_applied _ a)

/-- Working through a line that acts on an interface. -/
theorem step_of_contextual {d : Device} {context : Option String} {s : Staging} {x : Directive}
    (h : x.action.isContextual = true) :
    step d context s x =
      match context with
      | .none =>
        .ok (.none, s.passOver x (Text.quoted x.line ++ " outside interface context"))
      | some id =>
        match s.current? d id with
        | .none => .error (.noInterface id)
        | some i =>
          .ok (some id,
            { s.touch i x.action with applied := (s.touch i x.action).applied + 1 }) := by
  obtain ⟨action, line, number⟩ := x
  cases action with
  | shutdown | noShutdown | describe | accessVlan => cases context <;> rfl
  | enter | exit | comment | ignored => contradiction

/-- Working through one line never fails. It goes on with the context the line leaves, takes what
the line does to the interface in context, and counts a line without effect. -/
theorem step_continues {d : Device} (hd : d.WellFormed) {s : Staging} (hs : s.Fits d)
    {context : Option String} (hc : d.Holds context) (x : Directive) :
    ∃ t, step d context s x = .ok (x.contextAfter d context, t) ∧
      Continues d s (x.touch? context).toList t ∧
      t.ignored = s.ignored + if x.isPassedOver d context then 1 else 0 := by
  have hrefl := Continues.refl hs
  cases hx : x.action.isContextual with
  | true =>
    rw [step_of_contextual hx, Directive.contextAfter_of_contextual hx,
      Directive.isPassedOver_of_contextual hx, Directive.touch?, if_pos hx]
    cases context with
    | none => exact ⟨_, rfl, hrefl.of_same rfl rfl rfl rfl, rfl⟩
    | some id =>
      obtain ⟨i, hi⟩ := hc id rfl
      simp only [current?_of_get? hi]
      exact ⟨_, rfl, continues_touch hd hs hi hx, s.touch_ignored _ _⟩
  | false =>
    have htouch : x.touch? context = .none := if_neg (by rw [hx]; exact Bool.false_ne_true)
    rw [htouch, step, Directive.contextAfter, Directive.turn?, Directive.isPassedOver]
    cases ha : x.action with
    | enter ref =>
      cases hf : d.find? (some ref) with
      | none =>
        simp only [hf]
        exact ⟨_, rfl, hrefl.of_same rfl rfl rfl rfl, rfl⟩
      | some i =>
        simp only [hf]
        exact ⟨s, rfl, hrefl, rfl⟩
    | exit => exact ⟨s, rfl, hrefl, rfl⟩
    | comment => exact ⟨s, rfl, hrefl, rfl⟩
    | ignored => exact ⟨_, rfl, hrefl.of_same rfl rfl rfl rfl, rfl⟩
    | shutdown | noShutdown | describe | accessVlan =>
      rw [ha] at hx
      contradiction

/-- Working through a block never fails. It takes all that the block does to interfaces, and counts
the lines without effect. -/
theorem run_continues {d : Device} (hd : d.WellFormed) {s : Staging} (hs : s.Fits d)
    {context : Option String} (hc : d.Holds context) (block : List Directive) :
    ∃ t, run d context s block = .ok t ∧ Continues d s (touchesFrom d context block) t ∧
      t.ignored = s.ignored + passedFrom d context block := by
  induction block generalizing context s with
  | nil => exact ⟨s, rfl, Continues.refl hs, rfl⟩
  | cons x rest ih =>
    obtain ⟨t, hstep, hcont, hignored⟩ := step_continues hd hs hc x
    obtain ⟨u, hrun, hcont', hignored'⟩ :=
      ih hcont.fits (hc.contextAfter hd x)
    refine ⟨u, ?_, ?_, ?_⟩
    · rw [run, hstep]
      exact hrun
    · rw [touchesFrom_cons]
      exact hcont.trans hcont'
    · rw [passedFrom_cons, hignored', hignored, Nat.add_assoc]

end Staging

end LeafSwitch
