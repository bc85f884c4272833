import LeafSwitch.Time.Reading

/-!
# The device log

What the device has to say is a notice; when it is recorded it gets an id and the time.
-/

namespace LeafSwitch

/-- How grave a notice is. -/
inductive Severity where
  /-- A regular event. -/
  | info
  /-- Something to look at. -/
  | warning
  /-- A fault. -/
  | error
  /-- A grave fault. -/
  | critical
  deriving DecidableEq, Repr

namespace Severity

/-- The keyword of a severity. -/
def keyword : Severity → String
  | info => "INFO"
  | warning => "WARNING"
  | error => "ERROR"
  | critical => "CRITICAL"

/-- All severities. -/
def all : List Severity := [info, warning, error, critical]

/-- The severity with a keyword. -/
def ofKeyword? (word : String) : Option Severity :=
  all.find? fun s => s.keyword == word

end Severity

/-- An event of the device. -/
structure Notice where
  /-- How grave it is. -/
  severity : Severity
  /-- The part of the device that reports it. -/
  process : String
  /-- What happened. -/
  message : String
  deriving DecidableEq, Repr

/-- A notice on record. -/
structure LogEntry where
  /-- The id of the entry. -/
  id : String
  /-- When it was made. -/
  time : Time.Instant
  /-- The event. -/
  notice : Notice
  deriving DecidableEq, Repr

/-- An entry as the log shows it; its time must lie within the calendar. -/
def LogEntry.render (e : LogEntry) : Except Time.TimeError String := do
  let time ← e.time.text?
  return time ++ " [" ++ e.notice.process ++ "] " ++ e.notice.severity.keyword ++ ": " ++
    e.notice.message

end LeafSwitch
