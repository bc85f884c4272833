import LeafSwitch.Proofs.Block.Meaning
import LeafSwitch.Proofs.Session.Run
import LeafSwitch.Proofs.Text.Whole
import Mathlib.Tactic.SplitIfs

/-!
# Names that hold no lone half

The names of a device and of its interfaces stay whole texts: a line names the device by one of its
words, a block changes no name, and an update brings in the names that it holds.
-/

namespace LeafSwitch

/-- The names of a device and of its interfaces are whole. -/
structure Device.HasWholeNames (d : Device) : Prop where
  /-- The name of the device. -/
  hostname : Text.Whole d.hostname
  /-- The names of its interfaces. -/
  interfaces : ∀ i ∈ d.interfaces, Text.Whole i.name

/-- The names of the device with two ports are whole. -/
theorem Device.twoPorts_hasWholeNames : Device.twoPorts.HasWholeNames := by
  have hascii : Text.Ascii "leaf1" ∧ Text.Ascii "Ethernet1" ∧ Text.Ascii "Ethernet2" := by decide
  refine ⟨hascii.1.whole, fun i hi => ?_⟩
  have hport : i = Device.ethernet1 ∨ i = Interface.named "et2" "Ethernet2" := by
    simpa only [Device.twoPorts, List.mem_cons, List.not_mem_nil, or_false] using hi
  rcases hport with rfl | rfl
  · exact hascii.2.1.whole
  · exact hascii.2.2.whole

/-- The names that an update brings in are whole. -/
structure Update.HasWholeNames (u : Update) : Prop where
  /-- The new name, if there is one. -/
  hostname : ∀ name ∈ u.hostname, Text.Whole name
  /-- The names of interfaces that replace others. -/
  interfaces : ∀ p ∈ u.interfaces, Text.Whole p.2.name

/-- An update that brings in whole names leaves such names. -/
theorem Device.HasWholeNames.commit {d : Device} (h : d.HasWholeNames) {u : Update}
    (hu : u.HasWholeNames) : (d.commit u).HasWholeNames where
  hostname := by
    rw [Device.commit_hostname]
    cases hname : u.hostname with
    | none => exact h.hostname
    | some name => exact hu.hostname name hname
  interfaces := by
    intro i hi
    rcases Device.mem_or_of_mem_commit hi with hold | ⟨p, hp, rfl⟩
    · exact h.interfaces i hold
    · exact hu.interfaces p hp

/-- A word and those behind it name the device by one of the latter. -/
theorem Command.mem_of_ofWords {word name : String} {args : List String}
    (h : Command.ofWords word args = .setHostname name) : name ∈ args := by
  rw [Command.ofWords.eq_def] at h
  split_ifs at h
  · rw [Command.ofShown.eq_def] at h
    split at h <;> cases h
  · split at h
    · cases h
    · cases h
      exact List.mem_cons_self
    · cases h

/-- A line names the device by one of its words. -/
theorem Command.mem_wordsOf_of_setHostname {line name : String}
    (h : Command.ofLine line = .setHostname name) : name ∈ Text.wordsOf line := by
  rw [Command.ofLine] at h
  cases hwords : Text.wordsOf line with
  | nil =>
    rw [hwords] at h
    cases h
  | cons first args =>
    rw [hwords] at h
    exact List.mem_cons_of_mem first (Command.mem_of_ofWords h)

/-- What a command on a whole line changes brings in whole names. -/
theorem Command.change?_hasWholeNames {d : Device} (hd : d.HasWholeNames) {line : String}
    (hline : Text.Whole line) {change : Change}
    (hc : (Command.ofLine line).change? d = some change) (logs : List LogEntry) :
    (change.update logs).HasWholeNames := by
  cases hcommand : Command.ofLine line with
  | setStatus ref status severity =>
    rw [hcommand] at hc
    obtain ⟨i, hfind, rfl⟩ := Option.map_eq_some_iff.mp hc
    refine ⟨fun name hname => absurd hname (Option.not_mem_none name), fun p hp => ?_⟩
    obtain rfl := List.mem_singleton.mp hp
    exact hd.interfaces i (Device.mem_of_find? hfind)
  | setHostname name =>
    rw [hcommand] at hc
    obtain rfl := Option.some.inj hc
    refine ⟨fun new hnew => ?_, fun p hp => absurd hp List.not_mem_nil⟩
    obtain rfl := Option.some.inj hnew
    exact hline.of_mem_wordsOf (Command.mem_wordsOf_of_setHostname hcommand)
  | nothing | showInterfaces | showVlans | showVersion | showLog | showOther | configure | help
  | unknown =>
    rw [hcommand] at hc
    cases hc

/-- A whole line keeps names whole. -/
theorem Switch.interpret_hasWholeNames {sw : Switch} (hd : sw.device.HasWholeNames)
    {line : String} (hline : Text.Whole line) :
    (sw.interpret line).2.device.HasWholeNames := by
  rw [sw.interpret_device_eq]
  cases hc : (Command.ofLine line).change? sw.device with
  | none => exact hd
  | some change =>
    exact hd.commit (Command.change?_hasWholeNames hd hline hc _)

/-- A block changes no name. -/
theorem Switch.Applies.hasWholeNames {sw after : Switch} {block : List Directive} {t : Staging}
    {r : Report} (hd : sw.device.WellFormed) (h : sw.Applies block t r after)
    (hs : sw.device.HasWholeNames) : after.device.HasWholeNames := by
  refine ⟨h.hostname_eq ▸ hs.hostname, fun i hi => ?_⟩
  rw [h.device, Staging.commit_interfaces] at hi
  obtain ⟨old, hold, rfl⟩ := List.mem_map.mp hi
  rw [h.staged.fits.seen_name hd hold]
  exact hs.interfaces old hold

end LeafSwitch
