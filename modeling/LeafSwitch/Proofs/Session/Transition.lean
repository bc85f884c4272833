import LeafSwitch.Proofs.Session.Ports
import Mathlib.Data.List.Nodup
import Mathlib.Tactic.SplitIfs

/-!
# Lines and transitions

A line changes the state of one interface, or the name of the device, or nothing, and which of these
it is can be told from its words and from what they refer to. A line that changes something is
silent and leaves one entry in the log, so an answer tells that nothing has changed.
-/

namespace LeafSwitch

/-- A change of one field of a device. -/
inductive Transition where
  /-- The interface in a place is put into a state. -/
  | status (place : Nat) (status : Status)
  /-- The device is named. -/
  | hostname (name : String)
  deriving DecidableEq, Repr

/-- A device with one field changed. -/
def Transition.made (d : Device) : Transition → Device
  | .status place state =>
    { d with interfaces := d.interfaces.modify place fun i => { i with status := state } }
  | .hostname name => { d with hostname := name }

/-- The transition of a device that the words of a line ask for. -/
inductive Transition.AskedBy (d : Device) : List String → Transition → Prop
  /-- A port is taken out of service by `shutdown` and what refers to it. -/
  | down {word ref : String} {rest : List String} {place : Nat} {i : Interface}
    (hword : Text.lowered word = "shutdown") (hfind : d.find? (some ref) = some i)
    (hplace : d.interfaces[place]? = some i) :
    AskedBy d (word :: ref :: rest) (.status place .adminDown)
  /-- A port is put into service by `no`, by `shutdown` in small letters, and what refers to it. -/
  | up {word ref : String} {rest : List String} {place : Nat} {i : Interface}
    (hword : Text.lowered word = "no") (hfind : d.find? (some ref) = some i)
    (hplace : d.interfaces[place]? = some i) :
    AskedBy d (word :: "shutdown" :: ref :: rest) (.status place .up)
  /-- The device is named by `hostname` and the name. -/
  | name {word name : String} {rest : List String} (hword : Text.lowered word = "hostname") :
    AskedBy d (word :: name :: rest) (.hostname name)

/-- A line makes a transition: it answers nothing, changes one field and puts one entry into the
log. -/
structure Switch.Makes (sw : Switch) (line : String) (t : Transition) : Prop where
  /-- The answer is empty. -/
  silent : (sw.interpret line).1 = .ok ""
  /-- The device is as before but for one field and the log. -/
  device : ∃ e : LogEntry, (sw.interpret line).2.device =
    { t.made sw.device with logs := sw.device.logs ++ [e] }

namespace Command

/-- The transition that a command comes to, if any. -/
def transition? (d : Device) : Command → Option Transition
  | setStatus ref status _ => (d.find? ref).map fun i => .status (d.interfaces.idxOf i) status
  | setHostname name => some (.hostname name)
  | _ => none

/-- A word with others behind it comes to a transition in three ways only. -/
theorem ofWords_cases (word : String) (args : List String) :
    (word = "shutdown" ∧ ofWords word args = setStatus args.head? .adminDown .warning) ∨
      (∃ rest, word = "no" ∧ args = "shutdown" :: rest ∧
        ofWords word args = setStatus rest.head? .up .info) ∨
      (∃ name rest, word = "hostname" ∧ args = name :: rest ∧
        ofWords word args = setHostname name) ∨
      ∀ d, (ofWords word args).transition? d = none := by
  rw [ofWords.eq_def]
  split_ifs with _ _ hdown
  · refine Or.inr (Or.inr (Or.inr fun d => ?_))
    rw [ofShown.eq_def]
    split <;> rfl
  · exact Or.inr (Or.inr (Or.inr fun _ => rfl))
  · exact Or.inl ⟨hdown, rfl⟩
  · exact Or.inr (Or.inr (Or.inr fun _ => rfl))
  · split
    · exact Or.inr (Or.inl ⟨_, rfl, rfl, rfl⟩)
    · exact Or.inr (Or.inr (Or.inl ⟨_, _, rfl, rfl, rfl⟩))
    · exact Or.inr (Or.inr (Or.inr fun _ => rfl))

end Command

namespace Device

variable {d : Device}

/-- The place of an interface is where it is found first. -/
theorem WellFormed.idxOf_eq (hd : d.WellFormed) {place : Nat} {i : Interface}
    (hplace : d.interfaces[place]? = some i) : d.interfaces.idxOf i = place := by
  obtain ⟨hlt, rfl⟩ := List.getElem?_eq_some_iff.mp hplace
  exact (List.Nodup.of_map _ hd.ids_nodup).idxOf_getElem place hlt

/-- Putting the interface under an id into a state changes the one in its place. -/
theorem WellFormed.withStatus_eq (hd : d.WellFormed) {i : Interface} (hi : i ∈ d.interfaces)
    (status : Status) :
    d.withStatus i.id status = (Transition.status (d.interfaces.idxOf i) status).made d := by
  have hinterfaces : (d.withStatus i.id status).interfaces =
      d.interfaces.modify (d.interfaces.idxOf i) fun j => { j with status } := by
    refine List.ext_getElem? fun k => ?_
    rw [withStatus, List.getElem?_map, List.getElem?_modify]
    cases hk : d.interfaces[k]? with
    | none => rfl
    | some j =>
      have hj : j ∈ d.interfaces := List.mem_of_getElem? hk
      have hsame : j.id = i.id ↔ d.interfaces.idxOf i = k := by
        constructor
        · intro hid
          rw [← hd.eq_of_id_eq hj hi hid]
          exact hd.idxOf_eq hk
        · rintro rfl
          rw [List.getElem?_idxOf hi] at hk
          rw [Option.some.inj hk]
      simp only [Option.map_some, Option.map_eq_map, hsame]
  rw [Transition.made, ← hinterfaces]
  rfl

/-- A reference comes to a transition of the interface that it is met by, in its place. -/
theorem WellFormed.status_eq_some_iff (hd : d.WellFormed) {ref : Option String} {status : Status}
    {t : Transition} :
    (d.find? ref).map (fun i => Transition.status (d.interfaces.idxOf i) status) = some t ↔
      ∃ text place i, ref = some text ∧ d.find? (some text) = some i ∧
        d.interfaces[place]? = some i ∧ t = .status place status := by
  constructor
  · intro hcomes
    obtain ⟨i, hfind, rfl⟩ := Option.map_eq_some_iff.mp hcomes
    cases ref with
    | none => cases hfind
    | some text =>
      exact ⟨text, _, i, rfl, hfind, List.getElem?_idxOf (mem_of_find? hfind), rfl⟩
  · rintro ⟨text, place, i, rfl, hfind, hplace, rfl⟩
    rw [hfind, Option.map_some, hd.idxOf_eq hplace]

/-- Words ask for the transition that the line comes to, and for no other. -/
theorem WellFormed.askedBy_iff (hd : d.WellFormed) {line : String} {t : Transition} :
    t.AskedBy d (Text.wordsOf line) ↔ (Command.ofLine line).transition? d = some t := by
  rw [Command.ofLine]
  generalize Text.wordsOf line = words
  constructor
  · intro hasked
    cases hasked with
    | down hword hfind hplace =>
      dsimp only
      rw [hword]
      exact hd.status_eq_some_iff.mpr ⟨_, _, _, rfl, hfind, hplace, rfl⟩
    | up hword hfind hplace =>
      dsimp only
      rw [hword]
      exact hd.status_eq_some_iff.mpr ⟨_, _, _, rfl, hfind, hplace, rfl⟩
    | name hword =>
      dsimp only
      rw [hword]
      rfl
  · intro hcomes
    cases words with
    | nil => cases hcomes
    | cons word args =>
      dsimp only at hcomes
      rcases Command.ofWords_cases (Text.lowered word) args with
        ⟨hword, hcommand⟩ | ⟨rest, hword, rfl, hcommand⟩ | ⟨name, rest, hword, rfl, hcommand⟩ |
        hnone
      · rw [hcommand] at hcomes
        obtain ⟨text, place, i, hhead, hfind, hplace, rfl⟩ := hd.status_eq_some_iff.mp hcomes
        obtain ⟨rest, rfl⟩ := List.head?_eq_some_iff.mp hhead
        exact .down hword hfind hplace
      · rw [hcommand] at hcomes
        obtain ⟨text, place, i, hhead, hfind, hplace, rfl⟩ := hd.status_eq_some_iff.mp hcomes
        obtain ⟨more, rfl⟩ := List.head?_eq_some_iff.mp hhead
        exact .up hword hfind hplace
      · rw [hcommand] at hcomes
        obtain rfl := Option.some.inj hcomes
        exact .name hword
      · rw [hnone] at hcomes
        cases hcomes

end Device

namespace Switch

variable {sw : Switch}

/-- A line makes the transition that it comes to, and if there is none it leaves the device as it
is. -/
theorem interpret_transition (hd : sw.device.WellFormed) (line : String) :
    match (Command.ofLine line).transition? sw.device with
    | none => (sw.interpret line).2.device = sw.device
    | some t => sw.Makes line t := by
  cases hline : Command.ofLine line with
  | setStatus ref status severity =>
    obtain ⟨hsilent, hdevice⟩ := interpret_setStatus hd hline
    rw [Command.transition?]
    cases hfind : sw.device.find? ref with
    | none =>
      rw [hfind] at hdevice
      exact hdevice
    | some i =>
      rw [hfind] at hdevice
      obtain ⟨e, _, hafter⟩ := hdevice
      rw [hd.withStatus_eq (Device.mem_of_find? hfind)] at hafter
      exact ⟨hsilent, e, hafter⟩
  | setHostname name =>
    obtain ⟨hsilent, e, _, hafter⟩ := interpret_setHostname hd hline
    exact ⟨hsilent, e, hafter⟩
  | nothing | showInterfaces | showVlans | showVersion | showLog | showOther | configure | help
  | unknown =>
    have hkept : (sw.interpret line).2.device = sw.device := by
      rw [sw.interpret_device_eq, hline]
      rfl
    exact hkept

/-- A line that makes a transition does not leave the device as it is. -/
theorem Makes.device_ne {line : String} {t : Transition} (h : sw.Makes line t) :
    (sw.interpret line).2.device ≠ sw.device := by
  obtain ⟨e, hdevice⟩ := h.device
  rw [hdevice]
  exact Device.ne_of_logs rfl

/-- A line whose words ask for a transition, which is one at most, makes it, and any other line
leaves the device as it is. -/
theorem interpret_askedBy (hd : sw.device.WellFormed) (line : String) :
    (∃ t : Transition, t.AskedBy sw.device (Text.wordsOf line) ∧
        (∀ t' : Transition, t'.AskedBy sw.device (Text.wordsOf line) → t' = t) ∧ sw.Makes line t) ∨
      (∀ t : Transition, ¬ t.AskedBy sw.device (Text.wordsOf line)) ∧
        (sw.interpret line).2.device = sw.device := by
  have hmakes := interpret_transition hd line
  simp only [hd.askedBy_iff]
  cases hcomes : (Command.ofLine line).transition? sw.device with
  | none =>
    rw [hcomes] at hmakes
    exact Or.inr ⟨fun _ => nofun, hmakes⟩
  | some t =>
    rw [hcomes] at hmakes
    exact Or.inl ⟨t, rfl, fun _ hsame => (Option.some.inj hsame).symm, hmakes⟩

end Switch

namespace Session

/-- Whatever has happened to a device that has been built, a line whose words ask for a transition,
which is one at most, makes it: the answer is empty, one interface is put into the state or the
device is named, and one entry is put into the log. Any other line leaves the whole device as it is,
also one that has no answer, and every line that is answered with a percent sign is such a line. -/
theorem interpret_one_transition {hostname : String} {interfaces : List Interface}
    {vlans : List Int} {logs : List LogEntry} {d : Device}
    (hd : Device.build hostname interfaces vlans logs = .ok d) (site : Site)
    (window : Telemetry.Window) (ops : List Operation) (line : String) :
    ∃ s : Session, Session.run ⟨⟨d, site⟩, window⟩ ops = .ok s ∧
      ((∃ t : Transition, t.AskedBy s.switch.device (Text.wordsOf line) ∧
          (∀ t' : Transition, t'.AskedBy s.switch.device (Text.wordsOf line) → t' = t) ∧
          s.switch.Makes line t ∧ (s.switch.interpret line).2.device ≠ s.switch.device) ∨
        (∀ t : Transition, ¬ t.AskedBy s.switch.device (Text.wordsOf line)) ∧
          (s.switch.interpret line).2.device = s.switch.device) ∧
      ∀ text, (s.switch.interpret line).1 = .ok text → "% ".toList <+: text.toList →
        (s.switch.interpret line).2.device = s.switch.device := by
  obtain ⟨s, hrun, hwf, _⟩ :=
    exists_run (s := ⟨⟨d, site⟩, window⟩) (Device.build_wellFormed hd) ops
  rcases Switch.interpret_askedBy hwf line with ⟨t, hasked, honly, hmakes⟩ | ⟨hnone, hkept⟩
  · refine ⟨s, hrun, Or.inl ⟨t, hasked, honly, hmakes, hmakes.device_ne⟩,
      fun text htext hpercent => ?_⟩
    obtain rfl : "" = text := Except.ok.inj (hmakes.silent.symm.trans htext)
    exact absurd (List.prefix_nil.mp hpercent) (by decide)
  · exact ⟨s, hrun, Or.inr ⟨hnone, hkept⟩, fun _ _ _ => hkept⟩

/-- After a block has taken the second port out of service, a line in other letters puts it into
service again. -/
theorem interpret_one_transition_twoPorts :
    ∃ s : Session,
      Session.run ⟨⟨Device.twoPorts, Site.quiet⟩, ⟨2, []⟩⟩
        [.block none ⟨"interface et2\nshutdown", "cli", none⟩] = .ok s ∧
      s.switch.Makes " NO  shutdown ETHERNET2 now" (.status 1 .up) ∧
      (s.switch.interpret " NO  shutdown ETHERNET2 now").2.device ≠ s.switch.device := by
  obtain ⟨s, hrun, hcases, _⟩ := interpret_one_transition Device.twoPorts_build Site.quiet ⟨2, []⟩
    [.block none ⟨"interface et2\nshutdown", "cli", none⟩] " NO  shutdown ETHERNET2 now"
  have hport : (Session.run ⟨⟨Device.twoPorts, Site.quiet⟩, ⟨2, []⟩⟩
      [.block none ⟨"interface et2\nshutdown", "cli", none⟩]).map
        (fun s => (s.switch.device.find? (some "ETHERNET2"), s.switch.device.interfaces[1]?)) =
      .ok (some ((Interface.named "et2" "Ethernet2").touched .shutdown),
        some ((Interface.named "et2" "Ethernet2").touched .shutdown)) := by
    decide +kernel
  rw [hrun] at hport
  obtain ⟨hfind, hplace⟩ := Prod.mk.inj (Except.ok.inj hport)
  have hwords : Text.wordsOf " NO  shutdown ETHERNET2 now" =
      ["NO", "shutdown", "ETHERNET2", "now"] := by
    decide +kernel
  have hasked : (Transition.status 1 .up).AskedBy s.switch.device
      (Text.wordsOf " NO  shutdown ETHERNET2 now") := by
    rw [hwords]
    exact .up (by decide +kernel) hfind hplace
  rcases hcases with ⟨t, _, honly, hmakes, hchanged⟩ | ⟨hnone, _⟩
  · rw [← honly _ hasked] at hmakes
    exact ⟨s, hrun, hmakes, hchanged⟩
  · exact absurd hasked (hnone _)

end Session

end LeafSwitch
