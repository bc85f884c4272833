import LeafSwitch.Proofs.Seed.Vlans

/-!
# Ports by their names

A line cuts a reference at blanks and takes the first interface that answers to the first piece, by
its name or its id. So the name of an interface drives it exactly where the first word of the name
refers to the interface. Which interfaces these are is settled when a device is seeded, and lines,
blocks and samples do not change it.
-/

namespace LeafSwitch

/-- The line that takes what a text refers to out of service. -/
def Command.downLine (text : String) : String := "shutdown " ++ text

/-- The line that puts what a text refers to into service. -/
def Command.upLine (text : String) : String := "no shutdown " ++ text

/-- What the log says of an interface that is put into a state. -/
def Interface.changed (i : Interface) (severity : Severity) (status : Status) : Notice :=
  ⟨severity, "NbInterface", "Interface " ++ i.name ++ " changed state to " ++ status.keyword⟩

/-- A text drives an interface: the lines that take it out of service and put it into service again
answer nothing, put the interface and no other into these states, and log one entry each. -/
structure Switch.Drives (sw : Switch) (text : String) (i : Interface) : Prop where
  /-- Taking it out of service answers nothing. -/
  down_silent : (sw.interpret (Command.downLine text)).1 = .ok ""
  /-- Putting it into service answers nothing. -/
  up_silent :
    ((sw.interpret (Command.downLine text)).2.interpret (Command.upLine text)).1 = .ok ""
  /-- The states it is put into, and the entries. -/
  device : ∃ e f : LogEntry, e.notice = i.changed .warning .adminDown ∧
    f.notice = i.changed .info .up ∧
    (sw.interpret (Command.downLine text)).2.device =
      { sw.device.withStatus i.id .adminDown with logs := sw.device.logs ++ [e] } ∧
    ((sw.interpret (Command.downLine text)).2.interpret (Command.upLine text)).2.device =
      { sw.device.withStatus i.id .up with logs := sw.device.logs ++ [e, f] }

namespace Command

/-- Taking out of service what a text refers to is meant for its first word. -/
theorem ofLine_downLine (text : String) :
    ofLine (downLine text) = setStatus (Text.wordsOf text).head? .adminDown .warning := by
  have hwords : Text.wordsOf (downLine text) = "shutdown" :: Text.wordsOf text :=
    Text.wordsOf_append_space "shutdown" text
  rw [ofLine, hwords]
  rfl

/-- Putting into service what a text refers to is meant for its first word. -/
theorem ofLine_upLine (text : String) :
    ofLine (upLine text) = setStatus (Text.wordsOf text).head? .up .info := by
  have hwords : Text.wordsOf (upLine text) = "no" :: "shutdown" :: Text.wordsOf text :=
    Text.wordsOf_append_space "no shutdown" text
  rw [ofLine, hwords]
  rfl

end Command

/-- Of two states in a row the later one counts. -/
theorem Device.withStatus_withStatus (d : Device) (id : String) (status status' : Status) :
    (d.withStatus id status).withStatus id status' = d.withStatus id status' := by
  simp only [withStatus, List.map_map]
  congr 1
  refine List.map_congr_left fun i _ => ?_
  by_cases hid : i.id = id <;> simp only [Function.comp_apply, hid, if_true, if_false]

/-- An interface that is put into either state along with the one under an id has this id. -/
theorem Device.id_eq_of_withStatus {d : Device} {i : Interface} (hi : i ∈ d.interfaces)
    {id : String}
    (hdown : (d.withStatus id .adminDown).interfaces = (d.withStatus i.id .adminDown).interfaces)
    (hup : (d.withStatus id .up).interfaces = (d.withStatus i.id .up).interfaces) : i.id = id := by
  by_contra hne
  -- Otherwise the interface is left alone both times, and would be in both states from before.
  have hkept : ∀ status, (d.withStatus id status).interfaces =
      (d.withStatus i.id status).interfaces → i.status = status := by
    intro status hsame
    have hmap := List.map_inj_left.mp hsame i hi
    rw [if_neg hne, if_pos rfl] at hmap
    exact congrArg Interface.status hmap
  have hboth : Status.adminDown = Status.up := (hkept _ hdown).symm.trans (hkept _ hup)
  contradiction

namespace Switch

/-- A text drives what its first word refers to. -/
theorem drives_of_find? {sw : Switch} (hd : sw.device.WellFormed) {text : String} {i : Interface}
    (hfind : sw.device.find? (Text.wordsOf text).head? = some i) : sw.Drives text i := by
  have hdown := interpret_setStatus hd (Command.ofLine_downLine text)
  rw [hfind] at hdown
  obtain ⟨hsilent, e, he, hdevice⟩ := hdown
  -- The text goes on referring to the interface while it is out of service.
  have hfollows : (sw.interpret (Command.downLine text)).2.device.Follows sw.device :=
    interpret_follows hd _
  have hid := hfollows.find?_id (Text.wordsOf text).head?
  rw [hfind, Option.map_some] at hid
  obtain ⟨j, hj, hji⟩ := Option.map_eq_some_iff.mp hid
  obtain ⟨i', hi', hji'⟩ := hfollows.exists_mem (Device.mem_of_find? hj)
  have hname : j.name = i.name := by
    rw [hji'.name, hd.eq_of_id_eq hi' (Device.mem_of_find? hfind) (hji'.id.symm.trans hji)]
  have hup := interpret_setStatus (interpret_wellFormed hd (Command.downLine text))
    (Command.ofLine_upLine text)
  rw [hj] at hup
  obtain ⟨hsilent', f, hf, hdevice'⟩ := hup
  refine ⟨hsilent, hsilent', e, f, he, ?_, hdevice, ?_⟩
  · rw [hf, hname]
    rfl
  · rw [hdevice', hdevice, hji, List.append_assoc]
    exact congrArg (fun d : Device => { d with logs := sw.device.logs ++ [e, f] })
      (sw.device.withStatus_withStatus i.id .adminDown .up)

/-- A text drives an interface exactly where its first word refers to the interface. -/
theorem drives_iff {sw : Switch} (hd : sw.device.WellFormed) {text : String} {i : Interface}
    (hi : i ∈ sw.device.interfaces) :
    sw.Drives text i ↔ sw.device.find? (Text.wordsOf text).head? = some i := by
  refine ⟨fun hdrives => ?_, drives_of_find? hd⟩
  obtain ⟨e, f, -, -, hdown, hup⟩ := hdrives.device
  cases hfind : sw.device.find? (Text.wordsOf text).head? with
  | none =>
    have hnothing := (interpret_setStatus hd (Command.ofLine_downLine text)).2
    rw [hfind] at hnothing
    rw [hnothing] at hdown
    exact absurd hdown.symm (Device.ne_of_logs rfl)
  | some j =>
    obtain ⟨_, _, -, -, hdown', hup'⟩ := (drives_of_find? hd hfind).device
    have hid : i.id = j.id := Device.id_eq_of_withStatus hi
      (congrArg Device.interfaces (hdown'.symm.trans hdown) :)
      (congrArg Device.interfaces (hup'.symm.trans hup) :)
    rw [hd.eq_of_id_eq hi (Device.mem_of_find? hfind) hid]

end Switch

/-- Whatever lines, blocks and samples follow on a device that a seed has started, the interfaces
that can be driven by their names are those that were there under their ids at the start as what the
first word of their name refers to. -/
theorem Session.drives_by_name_iff {s : Site} {data : List (Value × Value)} {sw : Switch}
    (hboot : s.bootSeed data = .ok sw) (window : Telemetry.Window) {ops : List Operation}
    (hops : ∀ o ∈ ops, o.isServed = true) :
    ∃ last : Session, Session.run ⟨sw, window⟩ ops = .ok last ∧
      ∀ i ∈ last.switch.device.interfaces, last.switch.Drives i.name i ↔
        (sw.device.find? (Text.wordsOf i.name).head?).map (·.id) = some i.id := by
  have hgives := Site.gives_of_bootSeed hboot
  obtain ⟨last, hrun, hwf, _⟩ := exists_run (s := ⟨sw, window⟩) hgives.wellFormed ops
  have hfollows : last.switch.device.Follows sw.device :=
    follows_of_run (s := ⟨sw, window⟩) hgives.wellFormed hops hrun
  refine ⟨last, hrun, fun i hi => ?_⟩
  rw [Switch.drives_iff hwf hi, ← hfollows.find?_id]
  constructor
  · intro hfind
    rw [hfind, Option.map_some]
  · intro hid
    obtain ⟨j, hj, hji⟩ := Option.map_eq_some_iff.mp hid
    rw [hj, hwf.eq_of_id_eq (Device.mem_of_find? hj) hi hji]

/-- On the device of the careless seed, the port with a name of one word is driven by it. -/
theorem Session.drives_by_name_iff_careless :
    ∃ last : Session,
      Session.run ⟨Switch.careless, ⟨2, []⟩⟩ [.line "hostname leaf2",
        .block none ⟨"interface et2\nshutdown", "cli", none⟩] = .ok last ∧
      ∀ i ∈ last.switch.device.interfaces, last.switch.Drives i.name i ↔
        (Switch.careless.device.find? (Text.wordsOf i.name).head?).map (·.id) = some i.id :=
  Session.drives_by_name_iff Site.bootSeed_careless ⟨2, []⟩ (by decide)

/-- A seed may start a device with a port that is not driven by its name: both lines leave the
device as it is, with the port out of service. -/
theorem Session.drives_by_name_two_words :
    Site.quiet.bootSeed Seed.careless = .ok Switch.careless ∧
      Device.ethernet2 ∈ Switch.careless.device.interfaces ∧
      ((Switch.careless.interpret (Command.downLine Device.ethernet2.name)).2.interpret
        (Command.upLine Device.ethernet2.name)).2.device = Switch.careless.device ∧
      Device.ethernet2.status = .down ∧
      ¬ Switch.careless.Drives Device.ethernet2.name Device.ethernet2 := by
  have hkept : ((Switch.careless.interpret (Command.downLine Device.ethernet2.name)).2.interpret
      (Command.upLine Device.ethernet2.name)).2.device = Switch.careless.device := by
    decide +kernel
  refine ⟨Site.bootSeed_careless, by decide, hkept, rfl, fun hdrives => ?_⟩
  obtain ⟨e, f, -, -, -, hup⟩ := hdrives.device
  have hlogs : Switch.careless.device.logs = Switch.careless.device.logs ++ [e, f] :=
    congrArg Device.logs (hkept.symm.trans hup)
  exact absurd (List.self_eq_append_right.mp hlogs) (List.cons_ne_nil e [f])

end LeafSwitch
