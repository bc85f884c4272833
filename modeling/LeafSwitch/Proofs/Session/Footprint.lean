import LeafSwitch.Proofs.Block.Account
import LeafSwitch.Proofs.Session.Ports
import Mathlib.Data.Set.Basic

/-!
# What operations write

A line or a block writes the name of the device or fields of some interfaces, adds VLANs and says
something. All of this can be told from the device before, and it is the same on every device that
has come from this one by lines, blocks and samples. So operations that write different things can
be carried out in either order.
-/

namespace LeafSwitch

/-- What an operation may write. -/
inductive Target where
  /-- The name of the device. -/
  | hostname
  /-- Fields of the interface with an id. -/
  | interface (id : String)
  deriving DecidableEq, Repr

/-- What a command writes: the state of the interface that it refers to, or the name. -/
def Command.writes (d : Device) : Command → List Target
  | setStatus ref _ _ => (d.find? ref).toList.map fun i => .interface i.id
  | setHostname _ => [.hostname]
  | _ => []

/-- What an operation writes. A block writes fields of the interfaces that its lines act on, and an
update the name and the interfaces that it replaces. Notices and samples write nothing. -/
def Operation.writes (d : Device) : Operation → List Target
  | .line text => (Command.ofLine text).writes d
  | .block _ s =>
    match directivesOf s.block with
    | .ok directives => (touchedIds d directives).map .interface
    | .error _ => []
  | .update u =>
    (u.hostname.toList.map fun _ => .hostname) ++
      ((u.interfaces.map (·.1)).filter fun id => (d.get? id).isSome).map .interface
  | .note _ | .sample _ => []

/-- What an operation does to a device, apart from the numbers and times of log entries. -/
structure Impact where
  /-- The new name, if there is one. -/
  hostname : Option String
  /-- What an interface becomes. -/
  become : Interface → Interface
  /-- The VLANs added. -/
  vlans : Set Int
  /-- What is said. -/
  notices : List Notice

/-- An impact on nothing else than some targets. -/
structure Impact.Within (m : Impact) (targets : List Target) : Prop where
  /-- The device is named only if its name is among them. -/
  hostname : m.hostname.isSome → .hostname ∈ targets
  /-- An interface that is not among them stays as it is. -/
  interface : ∀ i, .interface i.id ∉ targets → m.become i = i
  /-- Ids stay. -/
  id : ∀ i, (m.become i).id = i.id

/-- A device becomes another one by an impact. -/
structure Device.Bears (d : Device) (m : Impact) (e : Device) : Prop where
  /-- It has the new name, or else its own. -/
  hostname : e.hostname = m.hostname.getD d.hostname
  /-- Each interface becomes what it has to. -/
  interfaces : e.interfaces = d.interfaces.map m.become
  /-- The VLANs are added. -/
  vlans : ∀ v, v ∈ e.vlans ↔ v ∈ d.vlans ∨ v ∈ m.vlans
  /-- The notices stand behind the log. -/
  notices : e.logs.map (·.notice) = d.logs.map (·.notice) ++ m.notices

/-- An operation has the same impact on all devices that have come from some device. -/
structure Operation.HasImpact (o : Operation) (d : Device) (m : Impact) : Prop where
  /-- The impact is on what the operation writes. -/
  within : m.Within (o.writes d)
  /-- A session goes on after the operation, which has the impact. -/
  bears : ∀ s : Session, s.switch.device.WellFormed → s.switch.device.Follows d →
    ∃ t, s.operate o = .ok t ∧ s.switch.device.Bears m t.switch.device

namespace Device

variable {d e : Device}

/-- The same ids lead to the same names. -/
theorem Follows.get?_name (h : e.Follows d) (id : String) :
    (e.get? id).map (·.name) = (d.get? id).map (·.name) := by
  obtain ⟨f, hf, hfollows⟩ := h
  rw [get?_map hf (fun i hi => (hfollows i hi).id), Option.map_map]
  cases hfound : d.get? id with
  | none => rfl
  | some i => exact congrArg some (hfollows i (List.mem_of_find?_eq_some hfound)).name

end Device

/-! ### Notices alone -/

/-- An impact that consists in notices. -/
def Impact.saying (notices : List Notice) : Impact := ⟨none, id, ∅, notices⟩

theorem Impact.saying_within (notices : List Notice) (targets : List Target) :
    (saying notices).Within targets :=
  ⟨fun h => absurd h Bool.false_ne_true, fun _ _ => rfl, fun _ => rfl⟩

/-- A device into whose log a notice is put bears this notice. -/
theorem Switch.append_bears (sw : Switch) (n : Notice) :
    sw.device.Bears (.saying [n]) (sw.append n).device where
  hostname := rfl
  interfaces := (List.map_id _).symm
  vlans _ := (or_iff_left (Set.notMem_empty _)).symm
  notices := List.map_append

/-- A device that stays as it is bears nothing. -/
theorem Device.bears_nothing (d : Device) : d.Bears (.saying []) d where
  hostname := rfl
  interfaces := (List.map_id _).symm
  vlans _ := (or_iff_left (Set.notMem_empty _)).symm
  notices := (List.append_nil _).symm

/-! ### Lines -/

/-- The impact of putting an interface into a state. -/
def Impact.ofStatus (i : Interface) (status : Status) (severity : Severity) : Impact where
  hostname := none
  become j := if j.id = i.id then { j with status } else j
  vlans := ∅
  notices := [⟨severity, "NbInterface",
    "Interface " ++ i.name ++ " changed state to " ++ status.keyword⟩]

/-- The impact of naming the device. -/
def Impact.ofName (name : String) : Impact where
  hostname := some name
  become := id
  vlans := ∅
  notices := [⟨.info, "System", "Hostname changed to " ++ name⟩]

theorem Impact.ofStatus_within (i : Interface) (status : Status) (severity : Severity) :
    (ofStatus i status severity).Within [.interface i.id] where
  hostname h := absurd h Bool.false_ne_true
  interface j hj := if_neg fun hid => hj (by rw [hid]; exact List.mem_singleton_self _)
  id j := by
    rw [ofStatus]
    dsimp only
    split <;> rfl

theorem Impact.ofName_within (name : String) : (ofName name).Within [.hostname] :=
  ⟨fun _ => List.mem_singleton_self _, fun _ _ => rfl, fun _ => rfl⟩

/-- A line with a command that changes nothing, wherever it is carried out, has no impact. -/
theorem Operation.line_hasImpact_of_silent {d : Device} {text : String}
    (h : ∀ e : Device, e.Follows d → (Command.ofLine text).change? e = none) :
    (Operation.line text).HasImpact d (.saying []) where
  within := Impact.saying_within ..
  bears s _ hfollows := by
    have hdevice := s.switch.interpret_device_eq text
    rw [h _ hfollows] at hdevice
    refine ⟨{ s with switch := (s.switch.interpret text).2 }, rfl, ?_⟩
    rw [hdevice]
    exact s.switch.device.bears_nothing

/-- A line that puts an interface into a state has this impact. -/
theorem Operation.line_hasImpact_ofStatus {d : Device} {text : String} {ref : Option String}
    {status : Status} {severity : Severity} {i : Interface}
    (hline : Command.ofLine text = .setStatus ref status severity) (hfind : d.find? ref = some i) :
    (Operation.line text).HasImpact d (.ofStatus i status severity) where
  within := by
    rw [writes, hline, Command.writes, hfind]
    exact Impact.ofStatus_within ..
  bears s hs hfollows := by
    have hsame := hfollows.find?_name ref
    rw [hfind, Option.map_some] at hsame
    obtain ⟨j, hj, hji⟩ := Option.map_eq_some_iff.mp hsame
    obtain ⟨hid, hname⟩ := Prod.mk.inj hji
    have hstatus := (Switch.interpret_setStatus hs hline).2
    rw [hj] at hstatus
    obtain ⟨e, he, hdevice⟩ := hstatus
    refine ⟨{ s with switch := (s.switch.interpret text).2 }, rfl, ?_⟩
    rw [hdevice, hid]
    refine ⟨rfl, rfl, fun v => (or_iff_left (Set.notMem_empty v)).symm, ?_⟩
    rw [List.map_append, List.map_singleton, he, hname]
    rfl

/-- A line that names the device has this impact. -/
theorem Operation.line_hasImpact_ofName {d : Device} {text name : String}
    (hline : Command.ofLine text = .setHostname name) :
    (Operation.line text).HasImpact d (.ofName name) where
  within := by
    rw [writes, hline]
    exact Impact.ofName_within name
  bears s hs _ := by
    obtain ⟨e, he, hdevice⟩ := (Switch.interpret_setHostname hs hline).2
    refine ⟨{ s with switch := (s.switch.interpret text).2 }, rfl, ?_⟩
    rw [hdevice]
    refine ⟨rfl, (List.map_id _).symm, fun v => (or_iff_left (Set.notMem_empty v)).symm, ?_⟩
    rw [List.map_append, List.map_singleton, he]
    rfl

/-- A line has an impact. -/
theorem Operation.exists_line_hasImpact (d : Device) (text : String) :
    ∃ m, (Operation.line text).HasImpact d m := by
  cases hline : Command.ofLine text with
  | setStatus ref status severity =>
    cases hfind : d.find? ref with
    | none =>
      refine ⟨_, line_hasImpact_of_silent fun e he => ?_⟩
      have hnone := he.find?_id ref
      rw [hfind, Option.map_none, Option.map_eq_none_iff] at hnone
      rw [hline, Command.change?, hnone]
      rfl
    | some i => exact ⟨_, line_hasImpact_ofStatus hline hfind⟩
  | setHostname name => exact ⟨_, line_hasImpact_ofName hline⟩
  | nothing | showInterfaces | showVlans | showVersion | showLog | showOther | configure | help
  | unknown => exact ⟨_, line_hasImpact_of_silent fun e _ => by rw [hline]; rfl⟩

/-! ### Blocks -/

/-- The impact of a block: what it touches settles the interfaces, and the VLANs it names are
added. -/
def Impact.ofBlock (d : Device) (block : List Directive) : Impact where
  hostname := none
  become i := i.settled (actionsOn i.id (touches d block))
  vlans := { v | ∃ n id, (id, .accessVlan n) ∈ touches d block ∧ 0 < n ∧ v = Int.ofNat n }
  notices := Staging.noticesOn d (touches d block)

theorem Impact.ofBlock_within (d : Device) (block : List Directive) :
    (ofBlock d block).Within ((touchedIds d block).map .interface) where
  hostname h := absurd h Bool.false_ne_true
  interface i hi := by
    have hnone : actionsOn i.id (touches d block) = [] := by
      rw [actionsOn, List.map_eq_nil_iff, List.filter_eq_nil_iff]
      intro act hact hid
      refine hi (List.mem_map_of_mem (List.mem_eraseDups.mpr ?_))
      rw [← beq_iff_eq.mp hid]
      exact List.mem_map_of_mem hact
    rw [ofBlock]
    dsimp only
    rw [hnone, Interface.settled_nil]
  id i := i.settled_id _

/-- A block has an impact. -/
theorem Operation.exists_block_hasImpact (d : Device) (tracker : Option Tracker) (s : Submission) :
    ∃ m, (Operation.block tracker s).HasImpact d m := by
  obtain ⟨block, hblock, _⟩ := exists_directivesOf s.block
  refine ⟨.ofBlock d block, ?_, fun t ht hfollows => ?_⟩
  · rw [writes, hblock]
    exact Impact.ofBlock_within d block
  · obtain ⟨block', _, r, after, hblock', happly, h⟩ := Switch.exists_applyBlock ht tracker s
    obtain rfl : block = block' := Except.ok.inj (hblock.symm.trans hblock')
    have hrefers : t.switch.device.RefersAs d := hfollows.find?_id
    have htouches := hrefers.touches_eq block
    refine ⟨{ t with switch := after }, ?_, h.hostname_eq, ?_, fun v => ?_, ?_⟩
    · rw [Session.operate, happly]
      rfl
    · rw [h.interfaces_eq_touches, htouches]
      rfl
    · rw [h.mem_vlans_iff_touches ht, htouches]
      rfl
    · rw [h.notices_eq_touches, htouches, Staging.noticesOn_congr hfollows.get?_name]
      rfl

/-! ### Samples -/

/-- What a sample says, which its draws decide. -/
def Telemetry.Draws.notices (draws : Telemetry.Draws) : List Notice :=
  let (errors, rest) := Telemetry.errorCount (Telemetry.latency draws.real.2).2
  if errors > 0 then [Telemetry.errorNotice (rest.whole 1 4).1] else []

/-- A sample says what its draws decide. -/
theorem Operation.sample_hasImpact (d : Device) (draws : Telemetry.Draws) :
    (Operation.sample draws).HasImpact d (.saying draws.notices) where
  within := Impact.saying_within ..
  bears s _ _ := by
    refine ⟨⟨(s.switch.sample draws).2.2, s.window.push (s.switch.sample draws).1⟩, rfl, ?_⟩
    rw [Switch.sample, Telemetry.Draws.notices]
    dsimp only
    split
    · exact Switch.append_bears ⟨s.switch.device, _⟩ _
    · exact s.switch.device.bears_nothing

/-- Lines, blocks and samples have an impact. -/
theorem Operation.exists_hasImpact (d : Device) {o : Operation} (ho : o.isServed = true) :
    ∃ m, o.HasImpact d m := by
  cases o with
  | line text => exact exists_line_hasImpact d text
  | block tracker s => exact exists_block_hasImpact d tracker s
  | sample draws => exact ⟨_, sample_hasImpact d draws⟩
  | update | note => cases ho

/-! ### Either order -/

/-- Impacts on different targets make the same of an interface in either order. -/
theorem Impact.Within.become_comm {m n : Impact} {a b : List Target} (hm : m.Within a)
    (hn : n.Within b) (hab : ∀ target ∈ a, target ∉ b) (i : Interface) :
    n.become (m.become i) = m.become (n.become i) := by
  by_cases hi : .interface i.id ∈ a
  · have hkept : ∀ j : Interface, j.id = i.id → n.become j = j := by
      intro j hj
      exact hn.interface j (hj ▸ hab _ hi)
    rw [hkept i rfl, hkept _ (hm.id i)]
  · have hkept : ∀ j : Interface, j.id = i.id → m.become j = j := by
      intro j hj
      exact hm.interface j (hj ▸ hi)
    rw [hkept i rfl, hkept _ (hn.id i)]

/-- Of impacts on different targets, one at most names the device. -/
theorem Impact.Within.hostname_comm {m n : Impact} {a b : List Target} (hm : m.Within a)
    (hn : n.Within b) (hab : ∀ target ∈ a, target ∉ b) (own : String) :
    n.hostname.getD (m.hostname.getD own) = m.hostname.getD (n.hostname.getD own) := by
  cases hname : m.hostname with
  | none => rfl
  | some name =>
    have hnone : n.hostname = none := by
      by_contra hsome
      have hmem := hm.hostname (by rw [hname]; rfl)
      exact hab _ hmem (hn.hostname (Option.isSome_iff_ne_none.mpr hsome))
    rw [hnone]
    rfl

namespace Session

/-- Two operations that have impacts have them one after the other. -/
theorem exists_run_pair {s : Session} (hs : s.switch.device.WellFormed) {o p : Operation}
    (ho : o.isServed = true) {m n : Impact} (hm : o.HasImpact s.switch.device m)
    (hn : p.HasImpact s.switch.device n) :
    ∃ d t, s.run [o, p] = .ok t ∧ s.switch.device.Bears m d ∧ d.Bears n t.switch.device ∧
      t.switch.device.WellFormed := by
  obtain ⟨middle, hstep, hbears⟩ := hm.bears s hs (.of_eq rfl)
  obtain ⟨middle', hstep', hwf, _⟩ := exists_operate hs o
  obtain rfl : middle = middle' := Except.ok.inj (hstep.symm.trans hstep')
  obtain ⟨t, hstep₂, hbears₂⟩ := hn.bears middle hwf (follows_of_operate hs ho hstep)
  obtain ⟨t', hstep₂', hwf₂, _⟩ := exists_operate hwf p
  obtain rfl : t = t' := Except.ok.inj (hstep₂.symm.trans hstep₂')
  refine ⟨_, t, ?_, hbears, hbears₂, hwf₂⟩
  rw [run, hstep]
  change (middle.operate p >>= fun u => u.run []) = _
  rw [hstep₂]
  rfl

/-- Lines, blocks and samples that write nothing in common can be carried out in either order: the
name, the interfaces and the VLANs become the same, and the log tells the same notices, in the order
of the operations. -/
theorem run_pair_comm {s : Session} (hs : s.switch.device.WellFormed) {o p : Operation}
    (ho : o.isServed = true) (hp : p.isServed = true)
    (hwrites : ∀ target ∈ o.writes s.switch.device, target ∉ p.writes s.switch.device) :
    ∃ a b, s.run [o, p] = .ok a ∧ s.run [p, o] = .ok b ∧
      a.switch.device.hostname = b.switch.device.hostname ∧
      a.switch.device.interfaces = b.switch.device.interfaces ∧
      a.switch.device.vlans = b.switch.device.vlans ∧
      (a.switch.device.logs.map (·.notice)).Perm (b.switch.device.logs.map (·.notice)) := by
  obtain ⟨m, hm⟩ := Operation.exists_hasImpact s.switch.device ho
  obtain ⟨n, hn⟩ := Operation.exists_hasImpact s.switch.device hp
  obtain ⟨d, a, hrun, hfirst, hsecond, ha⟩ := exists_run_pair hs ho hm hn
  obtain ⟨d', b, hrun', hfirst', hsecond', hb⟩ := exists_run_pair hs hp hn hm
  refine ⟨a, b, hrun, hrun', ?_, ?_, ?_, ?_⟩
  · rw [hsecond.hostname, hfirst.hostname, hsecond'.hostname, hfirst'.hostname,
      hm.within.hostname_comm hn.within hwrites]
  · rw [hsecond.interfaces, hfirst.interfaces, hsecond'.interfaces, hfirst'.interfaces,
      List.map_map, List.map_map]
    exact List.map_congr_left fun i _ => hm.within.become_comm hn.within hwrites i
  · refine ha.vlans_ascending.eq_of_mem_iff hb.vlans_ascending fun v => ?_
    rw [hsecond.vlans, hfirst.vlans, hsecond'.vlans, hfirst'.vlans, or_right_comm]
  · rw [hsecond.notices, hfirst.notices, hsecond'.notices, hfirst'.notices, List.append_assoc,
      List.append_assoc]
    exact (List.perm_append_comm).append_left _

/-- The block writes the first port and the line the second one, although the block turns to that
one too. -/
theorem run_pair_comm_twoPorts :
    ∃ a b,
      Session.run ⟨⟨Device.twoPorts, Site.quiet⟩, ⟨2, []⟩⟩
        [.block none ⟨"interface et2\ninterface et1\nshutdown\nswitchport access vlan 20", "cli",
          none⟩, .line "no shutdown ETHERNET2"] = .ok a ∧
      Session.run ⟨⟨Device.twoPorts, Site.quiet⟩, ⟨2, []⟩⟩
        [.line "no shutdown ETHERNET2",
          .block none ⟨"interface et2\ninterface et1\nshutdown\nswitchport access vlan 20", "cli",
            none⟩] = .ok b ∧
      a.switch.device.interfaces = b.switch.device.interfaces ∧
      a.switch.device.vlans = b.switch.device.vlans ∧
      (a.switch.device.logs.map (·.notice)).Perm (b.switch.device.logs.map (·.notice)) := by
  have hs : (Session.mk ⟨Device.twoPorts, Site.quiet⟩ ⟨2, []⟩).switch.device.WellFormed := by
    decide
  obtain ⟨a, b, hrun, hrun', _, hinterfaces, hvlans, hnotices⟩ := run_pair_comm hs
    (o := .block none ⟨"interface et2\ninterface et1\nshutdown\nswitchport access vlan 20", "cli",
      none⟩) (p := .line "no shutdown ETHERNET2") rfl rfl (by decide +kernel)
  exact ⟨a, b, hrun, hrun', hinterfaces, hvlans, hnotices⟩

end Session

end LeafSwitch
