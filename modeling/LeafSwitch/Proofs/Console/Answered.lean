import LeafSwitch.Proofs.Checked.Command
import LeafSwitch.Proofs.Console.Loop
import LeafSwitch.Proofs.Console.SingleFlight
import LeafSwitch.Proofs.Session.Mirror
import LeafSwitch.Proofs.Session.Showable

/-!
# Consoles where every line is answered

The switch has an answer to every line as long as VLANs can be written out and times of log entries
lie within the calendar. Neither lines nor blocks change that, so a run that begins so is not broken
off.
-/

namespace LeafSwitch

/-- Everything about a device can be displayed. -/
structure Device.Displayable (d : Device) : Prop where
  /-- The device is well-formed. -/
  wellFormed : d.WellFormed
  /-- Its VLANs can be written out. -/
  showable : d.Showable
  /-- The times in its log lie within the calendar. -/
  inRange : ∀ e ∈ d.logs, e.time.inRange = true

/-- Every line has an answer where everything can be displayed. -/
theorem Switch.exists_answer {sw : Switch} (h : sw.device.Displayable) (line : String) :
    ∃ text, (sw.interpret line).1 = .ok text := by
  have hanswer : (sw.interpret line).1 = (Command.ofLine line).answer sw.device := rfl
  rw [hanswer]
  cases hfails : (Command.ofLine line).answer sw.device with
  | ok text => exact ⟨text, rfl⟩
  | error cause =>
    have hlimit := h.wellFormed.natAbs_lt h.showable
    obtain ⟨_, _, e, he, hout⟩ := (Checked.answer_eq_error_iff hlimit).mp hfails
    rw [h.inRange e (List.mem_of_mem_drop he)] at hout
    cases hout

/-- Notices that are put on record leave the times in the log within the calendar. -/
theorem Switch.PutsOnRecord.inRange {sw after : Switch} {entries : List LogEntry} {readings : Nat}
    (h : sw.PutsOnRecord after entries readings)
    (hlogs : ∀ e ∈ sw.device.logs, e.time.inRange = true) :
    ∀ e ∈ after.device.logs, e.time.inRange = true := by
  intro e he
  rw [h.logs] at he
  exact (List.mem_append.mp he).elim (hlogs e) h.time_inRange

/-- A line leaves a device that can be displayed. -/
theorem Switch.interpret_displayable {sw : Switch} (h : sw.device.Displayable) (line : String) :
    (sw.interpret line).2.device.Displayable := by
  obtain ⟨entries, readings, hrecorded⟩ := sw.interpret_putsOnRecord line
  exact ⟨interpret_wellFormed h.wellFormed line, interpret_showable h.wellFormed h.showable line,
    hrecorded.inRange h.inRange⟩

/-- A block leaves a device that can be displayed. -/
theorem Switch.applyBlock_displayable {sw after : Switch} {tracker : Option Tracker}
    {submission : Submission} {r : Report}
    (happly : sw.applyBlock tracker submission = .ok (r, after)) (h : sw.device.Displayable) :
    after.device.Displayable := by
  obtain ⟨entries, readings, hrecorded⟩ := applyBlock_putsOnRecord happly
  obtain ⟨xs, t, r', after', hread, happly', happlies⟩ :=
    exists_applyBlock h.wellFormed tracker submission
  obtain ⟨rfl, rfl⟩ := Prod.mk.inj (Except.ok.inj (happly.symm.trans happly'))
  exact ⟨happlies.wellFormed h.wellFormed, happlies.showable h.wellFormed h.showable hread,
    hrecorded.inRange h.inRange⟩

namespace Console

variable {tracker : Option Tracker} {d after : Device}

/-- No deed makes a device one that cannot be displayed. -/
theorem Deed.Effect.displayable {x : Deed} (h : x.Effect tracker d after) (hd : d.Displayable) :
    after.Displayable := by
  cases x with
  | handled text =>
    rcases h with hsame | ⟨site, hinterpret⟩
    · rw [hsame]
      exact hd
    · rw [hinterpret]
      exact @Switch.interpret_displayable ⟨d, site⟩ hd _
  | applied intent block =>
    obtain ⟨site, r, sw, happly, rfl⟩ := h
    exact Switch.applyBlock_displayable happly hd
  | accepted | refused | asked | answered =>
    obtain rfl := h
    exact hd

/-- No deeds make a device one that cannot be displayed. -/
theorem Becomes.displayable {history : List Deed} (h : Becomes tracker d history after)
    (hd : d.Displayable) : after.Displayable := by
  induction h with
  | nothing => exact hd
  | more _ heffect ih => exact heffect.displayable ih

/-- A line is handled without a failure where everything can be displayed. -/
theorem handle_ne_error {c : Console} (h : c.switch.device.Displayable) (text : String)
    (cause : DisplayError) : (c.handle text).1 ≠ .error cause := by
  rw [Loop.handle_fst]
  cases kindOf text with
  | blank | leaving | clearing | request | analysis => exact nofun
  | command =>
    obtain ⟨answer, hanswer⟩ := Switch.exists_answer h (Text.trimmed text)
    dsimp only
    rw [hanswer]
    exact nofun

/-- A run is not broken off if everything can be displayed where it begins. -/
theorem Loop.stage_ne_broken {c : Console} (hd : c.switch.device.Displayable)
    {served : List Request} {waiting : Option Pending}
    (hstart : Serves tracker c.switch.device [] served waiting c) (lines : List String)
    (events : List Event) (cause : DisplayError) :
    ((⟨c, lines, .reading⟩ : Loop).steps events).stage ≠ .broken cause := by
  intro hbroken
  obtain ⟨before, line, _, _, hfails⟩ := exists_line_of_broken rfl hbroken
  obtain ⟨_, _, hserves⟩ := hstart.steps before
  exact handle_ne_error (hserves.device.displayable hd) line cause hfails

end Console

end LeafSwitch
