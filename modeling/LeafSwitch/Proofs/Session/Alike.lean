import LeafSwitch.Proofs.Block.Alike
import LeafSwitch.Proofs.Session.Run

/-!
# Sessions that keep up

Lines read neither the numbers nor the times of log entries, and blocks read neither. So operations
that lead a session to some device lead to a device alike wherever a session begins at one alike.
-/

namespace LeafSwitch

/-- A command changes the same about devices alike. -/
theorem Device.Alike.change?_eq {d e : Device} (h : d.Alike e) (c : Command) :
    c.change? d = c.change? e := by
  cases c with
  | setStatus ref status severity => rw [Command.change?, Command.change?, h.find?_eq]
  | nothing | showInterfaces | showVlans | showVersion | showLog | showOther | configure
  | setHostname | help | unknown => rfl

/-- A line leaves devices alike. -/
theorem Switch.interpret_alike {sw sw' : Switch} (h : sw'.device.Alike sw.device)
    (hd : sw.device.WellFormed) (line : String) :
    (sw'.interpret line).2.device.Alike (sw.interpret line).2.device := by
  rw [interpret_device_eq, interpret_device_eq, h.change?_eq]
  cases (Command.ofLine line).change? sw.device with
  | none => exact h
  | some c =>
    refine h.commit hd c ?_
    rw [Site.stampAll_notices, Site.stampAll_notices]

namespace Session

variable {s : Session} {sw : Switch}

/-- Operations lead a session to a device if they make its own device like this one. -/
def LeadsTo (s : Session) (ops : List Operation) (d : Device) : Prop :=
  ∃ t, s.run ops = .ok t ∧ t.switch.device.Alike d

/-- Without operations a session stays where it is. -/
theorem leadsTo_nil {d : Device} (h : s.switch.device.Alike d) : s.LeadsTo [] d :=
  ⟨s, rfl, h⟩

/-- Operations go on from where others have led. -/
theorem LeadsTo.append {a b : List Operation} {d e : Device} (h : s.LeadsTo a d)
    (h' : ∀ t : Session, t.switch.device.Alike d → t.LeadsTo b e) : s.LeadsTo (a ++ b) e := by
  obtain ⟨t, hrun, halike⟩ := h
  obtain ⟨u, hrun', halike'⟩ := h' t halike
  refine ⟨u, ?_, halike'⟩
  rw [run_append, hrun]
  exact hrun'

/-- A line leads to where it leads a switch with a device alike. -/
theorem leadsTo_line (h : s.switch.device.Alike sw.device) (hd : sw.device.WellFormed)
    (line : String) : s.LeadsTo [.line line] (sw.interpret line).2.device :=
  ⟨{ s with switch := (s.switch.interpret line).2 }, rfl, Switch.interpret_alike h hd line⟩

/-- A block leads to where it leads a switch with a device alike. -/
theorem leadsTo_block {tracker : Option Tracker} {submission : Submission} {r : Report}
    {after : Switch} (happly : sw.applyBlock tracker submission = .ok (r, after))
    (h : s.switch.device.Alike sw.device) (hd : sw.device.WellFormed) :
    s.LeadsTo [.block tracker submission] after.device := by
  obtain ⟨_, _, r', after', happly', hsession, halike⟩ :=
    Switch.exists_applyBlock_of_alike h hd tracker submission
  rw [happly] at happly'
  obtain ⟨rfl, rfl⟩ := Prod.mk.inj (Except.ok.inj happly')
  refine ⟨{ s with switch := after' }, ?_, halike⟩
  rw [run, operate, hsession]
  rfl

end Session

end LeafSwitch
