import LeafSwitch.Command
import LeafSwitch.Proofs.Data.Steps

/-!
# What is shown of a device

VLANs and log entries are shown item by item, and each item is shown or not by what it is itself: a
VLAN that is not too long, an entry whose time lies within the calendar. So a list of them is shown
where all of its items are, and the reason why it is not is the same for all of them.
-/

namespace LeafSwitch

/-- The VLANs of a device are shown where none of them is too long. -/
theorem Device.vlanText_eq (d : Device) :
    d.vlanText =
      if ∀ v ∈ d.vlans, v.natAbs < Value.shownLimit then
        .ok (Text.join ", " (d.vlans.map toString))
      else .error .tooLong := by
  have hwhole : ∀ v : Int, Value.wholeText v =
      if v.natAbs < Value.shownLimit then .ok (toString v) else .error .tooLong := fun _ => rfl
  rw [vlanText, mapM_eq_ite hwhole]
  split <;> rfl

/-- An entry of the log as it is shown within the calendar. -/
def LogEntry.line (e : LogEntry) : String :=
  e.time.text ++ " [" ++ e.notice.process ++ "] " ++ e.notice.severity.keyword ++ ": " ++
    e.notice.message

/-- An entry is shown where its time lies within the calendar. -/
theorem LogEntry.render_eq (e : LogEntry) :
    e.render = if e.time.inRange = true then .ok e.line else .error .outOfRange := by
  rw [render, Time.Instant.text?]
  split <;> rfl

/-- The end of the log is shown where all times in it lie within the calendar. -/
theorem Command.logText_eq (d : Device) :
    logText d =
      if ∀ e ∈ d.recent logShown, e.time.inRange = true then
        .ok (Text.join "\n" ((d.recent logShown).map LogEntry.line))
      else .error .outOfRange := by
  rw [logText, mapM_eq_ite LogEntry.render_eq]
  split <;> rfl

end LeafSwitch
