import LeafSwitch.Command
import LeafSwitch.Proofs.Block.Applied
import LeafSwitch.Telemetry.Sample

/-!
# Sessions

Whatever happens to a switch happens in single operations, in any order and any number. Each of them
comes to an update of the device or to a log entry, so each leaves a well-formed device well-formed
and takes nothing back. A whole session does so too.
-/

namespace LeafSwitch

/-- What can happen to a switch. -/
inductive Operation where
  /-- The operator enters a line. -/
  | line (text : String)
  /-- A block is applied, and filed where there is someone to file it. -/
  | block (tracker : Option Tracker) (submission : Submission)
  /-- An update is made. -/
  | update (u : Update)
  /-- A notice is put into the log. -/
  | note (n : Notice)
  /-- A sample is taken with some draws. -/
  | sample (draws : Telemetry.Draws)
  deriving DecidableEq, Repr

/-- A switch and the samples kept of it. -/
structure Session where
  /-- The switch. -/
  switch : Switch
  /-- The last samples. -/
  window : Telemetry.Window

namespace Session

/-- A session after one more operation. It goes on after a line without an answer. -/
def operate (s : Session) : Operation → Except BlockError Session
  | .line text => .ok { s with switch := (s.switch.interpret text).2 }
  | .block tracker submission =>
    (s.switch.applyBlock tracker submission).map fun (_, after) => { s with switch := after }
  | .update u => .ok { s with switch := s.switch.commit u }
  | .note n => .ok { s with switch := s.switch.append n }
  | .sample draws =>
    let (point, _, after) := s.switch.sample draws
    .ok ⟨after, s.window.push point⟩

/-- A session after more operations. -/
def run (s : Session) : List Operation → Except BlockError Session
  | [] => .ok s
  | o :: rest => do
    let s ← s.operate o
    s.run rest

end Session

/-- An update that changes nothing leaves the device as it is. -/
theorem Device.commit_none (d : Device) : d.commit .none = d := rfl

/-- What a line makes of the device is told by its command: an update with the notices put on
record, or nothing. -/
theorem Switch.interpret_device_eq (sw : Switch) (line : String) :
    (sw.interpret line).2.device =
      match (Command.ofLine line).change? sw.device with
      | none => sw.device
      | some c => sw.device.commit (c.update (sw.site.stampAll c.notices).1) := by
  let details := (Command.details sw.device line).map (Site.Record.debug commandChannel)
  let site := sw.site.tick.2.reportAll details
  have hsite : site.StampsAs sw.site := (Site.reportAll_stampsAs ..).trans (Site.tick_stampsAs _)
  have hdevice : (sw.interpret line).2.device =
      (Switch.execute ⟨sw.device, site⟩ (Command.ofLine line)).device := rfl
  rw [hdevice, Switch.execute]
  cases (Command.ofLine line).change? sw.device with
  | none => rfl
  | some c => exact congrArg (fun logs => sw.device.commit (c.update logs)) (hsite.stampAll _).1

/-- A line of the operator comes to one update of the device. -/
theorem Switch.interpret_device (sw : Switch) (line : String) :
    ∃ u, (sw.interpret line).2.device = sw.device.commit u := by
  rw [sw.interpret_device_eq]
  cases (Command.ofLine line).change? sw.device with
  | none => exact ⟨.none, (Device.commit_none _).symm⟩
  | some c => exact ⟨_, rfl⟩

/-- A line keeps a device well-formed. -/
theorem Switch.interpret_wellFormed {sw : Switch} (hd : sw.device.WellFormed) (line : String) :
    (sw.interpret line).2.device.WellFormed := by
  obtain ⟨u, hu⟩ := sw.interpret_device line
  rw [hu]
  exact hd.commit u

/-- A sample leaves the device alone or puts one entry into its log. -/
theorem Switch.sample_device (sw : Switch) (draws : Telemetry.Draws) :
    (sw.sample draws).2.2.device = sw.device ∨
      ∃ e, (sw.sample draws).2.2.device = sw.device.append e := by
  rw [Switch.sample]
  dsimp only
  split
  · exact Or.inr ⟨_, rfl⟩
  · exact Or.inl rfl

namespace Session

/-- A session goes on after any operation on a well-formed device. The device stays well-formed, and
nothing is taken back. -/
theorem exists_operate {s : Session} (hs : s.switch.device.WellFormed) (o : Operation) :
    ∃ t, s.operate o = .ok t ∧ t.switch.device.WellFormed ∧
      t.switch.device.Extends s.switch.device := by
  cases o with
  | line text =>
    obtain ⟨u, hu⟩ := s.switch.interpret_device text
    refine ⟨{ s with switch := (s.switch.interpret text).2 }, rfl, ?_⟩
    rw [hu]
    exact ⟨hs.commit u, hs.commit_extends u⟩
  | block tracker submission =>
    obtain ⟨_, t, r, after, _, happly, h⟩ := Switch.exists_applyBlock hs tracker submission
    refine ⟨{ s with switch := after }, ?_, ?_⟩
    · rw [operate, happly]
      rfl
    · rw [h.device]
      exact ⟨hs.commit _, hs.commit_extends _⟩
  | update u => exact ⟨_, rfl, hs.commit u, hs.commit_extends u⟩
  | note n => exact ⟨_, rfl, hs.append _, Device.append_extends ..⟩
  | sample draws =>
    refine ⟨⟨(s.switch.sample draws).2.2, s.window.push (s.switch.sample draws).1⟩, rfl, ?_⟩
    rcases s.switch.sample_device draws with h | ⟨e, h⟩
    · rw [h]
      exact ⟨hs, Device.Extends.refl _⟩
    · rw [h]
      exact ⟨hs.append e, Device.append_extends ..⟩

/-- A session goes on after any operations on a well-formed device. The device stays well-formed,
and nothing is taken back. -/
theorem exists_run {s : Session} (hs : s.switch.device.WellFormed) (ops : List Operation) :
    ∃ t, s.run ops = .ok t ∧ t.switch.device.WellFormed ∧
      t.switch.device.Extends s.switch.device := by
  induction ops generalizing s with
  | nil => exact ⟨s, rfl, hs, Device.Extends.refl _⟩
  | cons o rest ih =>
    obtain ⟨t, hstep, ht, hext⟩ := exists_operate hs o
    obtain ⟨u, hrun, hu, hext'⟩ := ih ht
    refine ⟨u, ?_, hu, hext.trans hext'⟩
    rw [run, hstep]
    exact hrun

/-- An operation leaves a well-formed device well-formed. -/
theorem wellFormed_of_operate {s t : Session} (hs : s.switch.device.WellFormed) {o : Operation}
    (h : s.operate o = .ok t) : t.switch.device.WellFormed := by
  obtain ⟨after, hstep, hwf, _⟩ := exists_operate hs o
  obtain rfl := Except.ok.inj (h.symm.trans hstep)
  exact hwf

/-- What single operations of some kind keep is kept by a row of them. -/
theorem keeps_of_run {p : Session → Prop} {q : Operation → Prop}
    (hkeeps : ∀ {s t : Session} {o : Operation}, p s → q o → s.operate o = .ok t → p t)
    {s t : Session} {ops : List Operation} (hs : p s) (hops : ∀ o ∈ ops, q o)
    (h : s.run ops = .ok t) : p t := by
  induction ops generalizing s with
  | nil =>
    obtain rfl := Except.ok.inj h
    exact hs
  | cons o rest ih =>
    obtain ⟨middle, hstep, hrest⟩ := bind_eq_ok_iff.mp h
    have hmiddle := hkeeps hs (hops o List.mem_cons_self) hstep
    exact ih hmiddle (fun x hx => hops x (List.mem_cons_of_mem o hx)) hrest

/-- Operations in two rows are carried out like operations in one. -/
theorem run_append (s : Session) (a b : List Operation) :
    s.run (a ++ b) = s.run a >>= fun t => t.run b := by
  induction a generalizing s with
  | nil => rfl
  | cons o rest ih =>
    rw [List.cons_append, run, run]
    cases s.operate o with
    | error e => rfl
    | ok t => exact ih t

/-- A device that has been built keeps its ids, in their order, and stays well-formed through all
operations. From any moment on, no VLAN is lost and the log is only continued. -/
theorem run_keeps_device {hostname : String} {interfaces : List Interface} {vlans : List Int}
    {logs : List LogEntry} {d : Device} (hd : Device.build hostname interfaces vlans logs = .ok d)
    (site : Site) (window : Telemetry.Window) (earlier later : List Operation) :
    ∃ middle last : Session,
      Session.run ⟨⟨d, site⟩, window⟩ earlier = .ok middle ∧
      Session.run ⟨⟨d, site⟩, window⟩ (earlier ++ later) = .ok last ∧
      last.switch.device.interfaces.map (·.id) = interfaces.map (·.id) ∧
      last.switch.device.WellFormed ∧
      last.switch.device.Extends middle.switch.device := by
  have hwf : d.WellFormed := Device.build_wellFormed hd
  have hids : d.interfaces = interfaces := by
    obtain ⟨_, rfl⟩ := Device.build_eq_ok_iff.mp hd
    rfl
  obtain ⟨middle, hmiddle, hwf', hext⟩ := exists_run (s := ⟨⟨d, site⟩, window⟩) hwf earlier
  obtain ⟨last, hlast, hwf'', hext'⟩ := exists_run hwf' later
  refine ⟨middle, last, hmiddle, ?_, ?_, hwf'', hext'⟩
  · rw [run_append, hmiddle]
    exact hlast
  · rw [hext'.ids, hext.ids, hids]

/-- An update may replace an interface under another id, name an id that there is not, and add what
is no VLAN; blocks, lines and samples may follow. -/
theorem run_keeps_device_twoPorts :
    ∃ middle last : Session,
      Session.run ⟨⟨Device.twoPorts, Site.quiet⟩, ⟨2, []⟩⟩
        [.update ⟨none, [("et2", Interface.named "et9" "Ethernet9"), ("et7", Device.ethernet1)],
          [40, -7, 0, 40], []⟩] = .ok middle ∧
      Session.run ⟨⟨Device.twoPorts, Site.quiet⟩, ⟨2, []⟩⟩
        ([.update ⟨none, [("et2", Interface.named "et9" "Ethernet9"), ("et7", Device.ethernet1)],
          [40, -7, 0, 40], []⟩] ++
        [.block none ⟨"interface et2\nswitchport access vlan 20\nshutdown", "cli", none⟩,
          .line "no shutdown et2", .sample (.fresh [] [])]) = .ok last ∧
      last.switch.device.interfaces.map (·.id) = Device.twoPorts.interfaces.map (·.id) ∧
      last.switch.device.WellFormed ∧
      last.switch.device.Extends middle.switch.device :=
  run_keeps_device Device.twoPorts_build Site.quiet ⟨2, []⟩ _ _

end Session

end LeafSwitch
