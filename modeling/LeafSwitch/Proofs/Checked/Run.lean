import LeafSwitch.Proofs.Checked.Apply
import LeafSwitch.Proofs.Checked.Command
import LeafSwitch.Proofs.Session.Mirror
import LeafSwitch.Proofs.Session.Showable

/-!
# Sessions in checked steps

A session goes the same way in checked steps as without checks. Every block is answered, whatever
has happened before and whatever text it is, and so is every line but one: where an entry at the end
of the log has a time outside of the calendar, the log is not shown. -/

namespace LeafSwitch

namespace Checked

/-- A session after one more operation. It goes on after a line without an answer. -/
def operate (s : Session) : Operation → Except Fault Session
  | .line text => .ok { s with switch := (interpret s.switch (some text)).2 }
  | .block tracker b => do
    let (_, after) ← applyBlock s.switch tracker (some b.block) b.source b.intent
    return { s with switch := after }
  | .update u => .ok { s with switch := s.switch.commit u }
  | .note n => .ok { s with switch := s.switch.append n }
  | .sample draws =>
    let (point, _, after) := s.switch.sample draws
    .ok ⟨after, s.window.push point⟩

/-- A session after more operations. -/
def session (s : Session) : List Operation → Except Fault Session
  | [] => .ok s
  | o :: rest => do
    let s ← operate s o
    session s rest

/-- A block is applied in checked steps to a well-formed device whose VLANs can be written out, and
leaves such a device. -/
theorem exists_applyBlock {sw : Switch} (hd : sw.device.WellFormed) (hs : sw.device.Showable)
    (tracker : Option Tracker) (block : Option String) (source : String)
    (intent : Option String) :
    ∃ r after, sw.applyBlock tracker ⟨block.getD "", source, intent⟩ = .ok (r, after) ∧
      applyBlock sw tracker block source intent = .ok (r, after) ∧ after.device.Showable := by
  obtain ⟨xs, t, r, after, hxs, happly, happlies⟩ :=
    Switch.exists_applyBlock hd tracker ⟨block.getD "", source, intent⟩
  have hafter := happlies.showable hd hs hxs
  have hcreated := happlies.created_natAbs_lt hd hxs
  exact ⟨r, after, happly, applyBlock_eq happly hcreated, hafter⟩

/-- An operation on a well-formed device whose VLANs can be written out goes the same way in checked
steps, and leaves VLANs that can be written out. -/
theorem exists_operate {s : Session} (hd : s.switch.device.WellFormed)
    (hs : s.switch.device.Showable) {o : Operation} (ho : o.Showable) :
    ∃ t, s.operate o = .ok t ∧ operate s o = .ok t ∧ t.switch.device.Showable := by
  cases o with
  | line text =>
    refine ⟨{ s with switch := (s.switch.interpret text).2 }, rfl, ?_,
      Switch.interpret_showable hd hs text⟩
    rw [operate, interpret_eq]
    rfl
  | block tracker b =>
    obtain ⟨r, after, happly, hchecked, hafter⟩ :=
      exists_applyBlock hd hs tracker (some b.block) b.source b.intent
    refine ⟨{ s with switch := after }, ?_, ?_, hafter⟩
    · have hsame : s.switch.applyBlock tracker b = .ok (r, after) := happly
      rw [Session.operate, hsame]
      rfl
    · rw [operate, hchecked]
      rfl
  | update u => exact ⟨_, rfl, rfl, hd.commit_showable hs ho⟩
  | note n => exact ⟨_, rfl, rfl, hs⟩
  | sample draws =>
    refine ⟨⟨(s.switch.sample draws).2.2, s.window.push (s.switch.sample draws).1⟩, rfl, rfl, ?_⟩
    rcases s.switch.sample_device draws with h | ⟨e, h⟩
    · rw [h]
      exact hs
    · rw [h]
      exact hs

end Checked

end LeafSwitch
