import LeafSwitch.Device.State
import LeafSwitch.Site.State

/-!
# The switch at work

A device at its site. Every operation of the program takes a switch to a switch. What is to be said
about a change is put on record first, then the change is made in one step, and then the journal
repeats the new entries of the device log.
-/

namespace LeafSwitch

/-- A device and its site. -/
structure Switch where
  /-- The device. -/
  device : Device
  /-- The surroundings. -/
  site : Site

/-- Changes to a device, with notices that are not on record yet. -/
structure Change where
  /-- The new name, if it changes. -/
  hostname : Option String
  /-- Replacements of interfaces, each under the id of the interface it replaces. -/
  interfaces : List (String × Interface)
  /-- VLANs to add. -/
  vlans : List Int
  /-- Notices about the changes. -/
  notices : List Notice
  deriving DecidableEq, Repr

namespace Change

/-- The update that makes a change once its notices are on record. -/
def update (c : Change) (logs : List LogEntry) : Update :=
  ⟨c.hostname, c.interfaces, c.vlans, logs⟩

/-- Whether there is no change at all. -/
def isEmpty (c : Change) : Bool :=
  c.hostname.isNone && c.interfaces.isEmpty && c.vlans.isEmpty && c.notices.isEmpty

end Change

namespace Switch

/-- Add a record to the journal. -/
def report (sw : Switch) (r : Site.Record) : Switch :=
  { sw with site := sw.site.report r }

/-- Make an update, and repeat its log entries in the journal. -/
def commit (sw : Switch) (u : Update) : Switch :=
  ⟨sw.device.commit u, sw.site.reportAll (u.logs.map Site.Record.ofEntry)⟩

/-- Put the notices of a change on record and make the change. -/
def perform (sw : Switch) (c : Change) : Switch :=
  let (logs, site) := sw.site.stampAll c.notices
  { sw with site }.commit (c.update logs)

/-- Append one entry to the device log, and repeat it in the journal. -/
def append (sw : Switch) (n : Notice) : Switch :=
  let (entry, site) := sw.site.stamp n
  ⟨sw.device.append entry, site.report (Site.Record.ofEntry entry)⟩

end Switch

end LeafSwitch
