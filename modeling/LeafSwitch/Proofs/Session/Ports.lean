import LeafSwitch.Proofs.Block.Direct
import LeafSwitch.Proofs.Session.Run

/-!
# What sessions leave of interfaces

Lines, blocks and samples put interfaces into states and VLANs and describe them, but they never
change a name, and the VLANs they give are not negative. So all through a session the same texts
refer to the same interfaces, and a negative VLAN is one that has been there from the start.
-/

namespace LeafSwitch

/-- Whether an operation is a line, a block or a sample. -/
def Operation.isServed : Operation → Bool
  | .line _ | .block _ _ | .sample _ => true
  | .update _ | .note _ => false

/-- What lines, blocks and samples leave of an interface. -/
structure Interface.Follows (later earlier : Interface) : Prop where
  /-- The id is the same. -/
  id : later.id = earlier.id
  /-- The name is the same. -/
  name : later.name = earlier.name
  /-- The VLAN is the same, or it is not negative. -/
  vlan : later.vlan = earlier.vlan ∨ 0 ≤ later.vlan

theorem Interface.Follows.refl (i : Interface) : i.Follows i :=
  ⟨rfl, rfl, Or.inl rfl⟩

theorem Interface.Follows.trans {i j k : Interface} (h : j.Follows i) (h' : k.Follows j) :
    k.Follows i where
  id := h'.id.trans h.id
  name := h'.name.trans h.name
  vlan := by
    rcases h'.vlan with heq | hpos
    · rw [heq]
      exact h.vlan
    · exact Or.inr hpos

/-- What lines, blocks and samples leave of the interfaces of a device, each in its place. -/
def Device.Follows (later earlier : Device) : Prop :=
  ∃ f : Interface → Interface, later.interfaces = earlier.interfaces.map f ∧
    ∀ i ∈ earlier.interfaces, (f i).Follows i

namespace Device.Follows

variable {d e : Device}

theorem of_eq (h : e.interfaces = d.interfaces) : e.Follows d :=
  ⟨id, by rw [h, List.map_id], fun i _ => .refl i⟩

theorem trans {c : Device} (h : d.Follows c) (h' : e.Follows d) : e.Follows c := by
  obtain ⟨f, hf, hfollows⟩ := h
  obtain ⟨g, hg, hfollows'⟩ := h'
  refine ⟨g ∘ f, by rw [hg, hf, List.map_map], fun i hi => ?_⟩
  have hmem : f i ∈ d.interfaces := by
    rw [hf]
    exact List.mem_map_of_mem hi
  exact (hfollows i hi).trans (hfollows' _ hmem)

/-- Each interface follows one that was there. -/
theorem exists_mem (h : e.Follows d) {j : Interface} (hj : j ∈ e.interfaces) :
    ∃ i ∈ d.interfaces, j.Follows i := by
  obtain ⟨f, hf, hfollows⟩ := h
  rw [hf] at hj
  obtain ⟨i, hi, rfl⟩ := List.mem_map.mp hj
  exact ⟨i, hi, hfollows i hi⟩

/-- The same texts refer to interfaces with the same ids and names. -/
theorem find?_name (h : e.Follows d) (ref : Option String) :
    (e.find? ref).map (fun i => (i.id, i.name)) = (d.find? ref).map fun i => (i.id, i.name) := by
  obtain ⟨f, hf, hfollows⟩ := h
  rw [Device.find?_map hf fun i hi => ⟨(hfollows i hi).id, (hfollows i hi).name⟩, Option.map_map]
  cases hfound : d.find? ref with
  | none => rfl
  | some i =>
    have hi := hfollows i (Device.mem_of_find? hfound)
    rw [Option.map_some, Option.map_some, Function.comp_apply, hi.id, hi.name]

/-- The same texts refer to the same interfaces. -/
theorem find?_id (h : e.Follows d) (ref : Option String) :
    (e.find? ref).map (·.id) = (d.find? ref).map (·.id) := by
  have hfirst := congrArg (Option.map Prod.fst) (h.find?_name ref)
  simpa only [Option.map_map, Function.comp_def] using hfirst

end Device.Follows

/-! ### Single operations -/

/-- A device with the interface under an id in another state. -/
def Device.withStatus (d : Device) (id : String) (status : Status) : Device :=
  { d with interfaces := d.interfaces.map fun i => if i.id = id then { i with status } else i }

/-- Putting an interface into a state changes nothing else; the log is continued. -/
theorem Device.WellFormed.commit_status {d : Device} (hd : d.WellFormed) {i : Interface}
    (hi : i ∈ d.interfaces) (status : Status) (logs : List LogEntry) :
    d.commit ⟨none, [(i.id, { i with status })], [], logs⟩ =
      { d.withStatus i.id status with logs := d.logs ++ logs } := by
  have hreplace : ∀ j ∈ d.interfaces,
      Update.replace ⟨none, [(i.id, { i with status })], [], logs⟩ j =
        if j.id = i.id then { j with status } else j := by
    intro j hj
    have hsingle : (⟨none, [(i.id, { i with status })], [], logs⟩ : Update).interfaces =
        [(({ i with status } : Interface).id, { i with status })] := rfl
    rw [Update.replace_single hsingle]
    by_cases hid : j.id = i.id
    · rw [if_pos hid, if_pos hid, hd.eq_of_id_eq hj hi hid]
    · rw [if_neg hid, if_neg hid]
  have hinterfaces : (d.commit ⟨none, [(i.id, { i with status })], [], logs⟩).interfaces =
      (d.withStatus i.id status).interfaces := by
    rw [Device.commit_interfaces]
    exact List.map_congr_left hreplace
  have hvlans : (d.withStatus i.id status).interfaces.map (·.vlan) = d.interfaces.map (·.vlan) := by
    rw [Device.withStatus, List.map_map]
    refine List.map_congr_left fun j _ => ?_
    rw [Function.comp_apply]
    split <;> rfl
  apply Device.ext
  · exact Device.commit_hostname ..
  · exact hinterfaces
  · rw [hd.commit_vlans, List.append_nil, hinterfaces, reconcileVlans, hvlans]
    exact hd.reconcileVlans_self
  · exact Device.commit_logs ..

/-- Naming the device changes nothing else; the log is continued. -/
theorem Device.WellFormed.commit_name {d : Device} (hd : d.WellFormed) (name : String)
    (logs : List LogEntry) :
    d.commit ⟨some name, [], [], logs⟩ = { d with hostname := name, logs := d.logs ++ logs } := by
  have hinterfaces : (d.commit ⟨some name, [], [], logs⟩).interfaces = d.interfaces :=
    (Device.commit_interfaces ..).trans (List.map_id' _)
  apply Device.ext
  · exact Device.commit_hostname ..
  · exact hinterfaces
  · rw [hd.commit_vlans, hinterfaces, List.append_nil]
    exact hd.reconcileVlans_self
  · exact Device.commit_logs ..

/-- A device whose log is continued is not as it was. -/
theorem Device.ne_of_logs {d e : Device} {entry : LogEntry} {more : List LogEntry}
    (h : e.logs = d.logs ++ entry :: more) : e ≠ d := by
  rintro rfl
  exact List.cons_ne_nil entry more (List.self_eq_append_right.mp h)

/-- Putting an interface into a state leaves it what it is otherwise. -/
theorem Device.withStatus_follows (d : Device) (id : String) (status : Status) :
    (d.withStatus id status).Follows d := by
  refine ⟨_, rfl, fun i _ => ?_⟩
  split
  · exact ⟨rfl, rfl, Or.inl rfl⟩
  · exact .refl i

/-- A line that puts an interface into a state does so where its reference is met, says so in the
log, and does nothing else; it answers nothing either way. -/
theorem Switch.interpret_setStatus {sw : Switch} (hd : sw.device.WellFormed) {line : String}
    {ref : Option String} {status : Status} {severity : Severity}
    (hline : Command.ofLine line = .setStatus ref status severity) :
    (sw.interpret line).1 = .ok "" ∧
      match sw.device.find? ref with
      | none => (sw.interpret line).2.device = sw.device
      | some i => ∃ e : LogEntry, e.notice = ⟨severity, "NbInterface",
            "Interface " ++ i.name ++ " changed state to " ++ status.keyword⟩ ∧
          (sw.interpret line).2.device =
            { sw.device.withStatus i.id status with logs := sw.device.logs ++ [e] } := by
  have hanswer : (sw.interpret line).1 = (Command.ofLine line).answer sw.device := rfl
  refine ⟨by rw [hanswer, hline]; rfl, ?_⟩
  rw [sw.interpret_device_eq, hline, Command.change?]
  cases hfind : sw.device.find? ref with
  | none => rfl
  | some i => exact ⟨_, rfl, hd.commit_status (Device.mem_of_find? hfind) status _⟩

/-- A line that names the device does so, says so in the log, and does nothing else; it answers
nothing. -/
theorem Switch.interpret_setHostname {sw : Switch} (hd : sw.device.WellFormed) {line name : String}
    (hline : Command.ofLine line = .setHostname name) :
    (sw.interpret line).1 = .ok "" ∧
      ∃ e : LogEntry, e.notice = ⟨.info, "System", "Hostname changed to " ++ name⟩ ∧
        (sw.interpret line).2.device =
          { sw.device with hostname := name, logs := sw.device.logs ++ [e] } := by
  have hanswer : (sw.interpret line).1 = (Command.ofLine line).answer sw.device := rfl
  refine ⟨by rw [hanswer, hline]; rfl, ?_⟩
  rw [sw.interpret_device_eq, hline]
  exact ⟨_, rfl, hd.commit_name name _⟩

/-- A line leaves names and VLANs of interfaces alone. -/
theorem Switch.interpret_follows {sw : Switch} (hd : sw.device.WellFormed) (line : String) :
    (sw.interpret line).2.device.Follows sw.device := by
  cases hline : Command.ofLine line with
  | setStatus ref status severity =>
    have hstatus := (Switch.interpret_setStatus hd hline).2
    cases hfind : sw.device.find? ref with
    | none =>
      rw [hfind] at hstatus
      exact .of_eq (congrArg Device.interfaces hstatus)
    | some i =>
      rw [hfind] at hstatus
      obtain ⟨e, _, hdevice⟩ := hstatus
      rw [hdevice]
      exact (sw.device.withStatus_follows i.id status)
  | setHostname name =>
    obtain ⟨e, _, hdevice⟩ := (Switch.interpret_setHostname hd hline).2
    refine .of_eq ?_
    rw [hdevice]
  | nothing | showInterfaces | showVlans | showVersion | showLog | showOther | configure | help
  | unknown =>
    refine .of_eq ?_
    rw [sw.interpret_device_eq, hline]
    rfl

/-- A block leaves names of interfaces alone, and the VLANs it gives are not negative. -/
theorem Switch.Applies.follows {sw after : Switch} {block : List Directive} {t : Staging}
    {r : Report} (h : sw.Applies block t r after) (hd : sw.device.WellFormed) :
    after.device.Follows sw.device := by
  refine ⟨t.seen, by rw [h.device, Staging.commit_interfaces], fun i hi => ?_⟩
  refine ⟨t.seen_id i, h.staged.fits.seen_name hd hi, ?_⟩
  rw [h.staged.seen i hi, Staging.seen_none, Interface.settled]
  dsimp only
  cases ((actionsOn i.id (touches sw.device block)).filterMap Action.vlan?).getLast? with
  | none => exact Or.inl rfl
  | some v => exact Or.inr (Int.natCast_nonneg v)

namespace Session

/-- An operation of a session leaves names of interfaces alone, and gives no negative VLAN. -/
theorem follows_of_operate {s t : Session} (hs : s.switch.device.WellFormed) {o : Operation}
    (ho : o.isServed = true) (h : s.operate o = .ok t) :
    t.switch.device.Follows s.switch.device := by
  cases o with
  | line text =>
    obtain rfl := Except.ok.inj h
    exact Switch.interpret_follows hs text
  | block tracker submission =>
    obtain ⟨_, _, r, after, _, happly, happlies⟩ := Switch.exists_applyBlock hs tracker submission
    rw [operate, happly] at h
    obtain rfl := Except.ok.inj h
    exact happlies.follows hs
  | sample draws =>
    have hsame : (s.switch.sample draws).2.2.device.interfaces = s.switch.device.interfaces := by
      rcases s.switch.sample_device draws with hdevice | ⟨e, hdevice⟩
      · rw [hdevice]
      · rw [hdevice]
        rfl
    rw [← Except.ok.inj h]
    exact .of_eq hsame
  | update | note => cases ho

/-- A session leaves names of interfaces alone, and gives no negative VLAN. -/
theorem follows_of_run {s t : Session} (hs : s.switch.device.WellFormed) {ops : List Operation}
    (hops : ∀ o ∈ ops, o.isServed = true) (h : s.run ops = .ok t) :
    t.switch.device.Follows s.switch.device := by
  refine (keeps_of_run (p := fun u => u.switch.device.WellFormed ∧
    u.switch.device.Follows s.switch.device) ?_ ⟨hs, .of_eq rfl⟩ hops h).2
  intro u v o hu ho hstep
  exact ⟨wellFormed_of_operate hu.1 hstep, hu.2.trans (follows_of_operate hu.1 ho hstep)⟩

end Session

end LeafSwitch
