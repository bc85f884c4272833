import LeafSwitch.Data.Shown
import LeafSwitch.Device.Log
import LeafSwitch.Number.Fixed
import LeafSwitch.Site.Clock
import LeafSwitch.Text.Layout

/-!
# The journal

What the program reports about its own work, apart from the device log: records of named channels,
each at a level. Timed sections report to a channel of their own.
-/

namespace LeafSwitch.Site

open Number (Binary64)

/-- A record of the journal. -/
structure Record where
  /-- The channel. -/
  channel : String
  /-- The level; graver records have higher ones. -/
  level : Int
  /-- The text. -/
  message : String
  deriving DecidableEq, Repr

/-- The level of details. -/
def debugLevel : Int := 10

/-- The level of regular events. -/
def infoLevel : Int := 20

/-- The level of warnings. -/
def warningLevel : Int := 30

/-- The level of faults. -/
def errorLevel : Int := 40

/-- The level of grave faults. -/
def criticalLevel : Int := 50

/-- The name of a level; a level without a name is shown by its number. -/
def levelName (level : Int) : String :=
  if level = debugLevel then "DEBUG"
  else if level = infoLevel then "INFO"
  else if level = warningLevel then "WARNING"
  else if level = errorLevel then "ERROR"
  else if level = criticalLevel then "CRITICAL"
  else if level = 0 then "NOTSET"
  else "Level " ++ toString level

/-- A record of details. -/
def Record.debug (channel message : String) : Record := ⟨channel, debugLevel, message⟩

/-- A record of a regular event. -/
def Record.info (channel message : String) : Record := ⟨channel, infoLevel, message⟩

/-- A record of a warning. -/
def Record.warning (channel message : String) : Record := ⟨channel, warningLevel, message⟩

/-- A record of a fault. -/
def Record.error (channel message : String) : Record := ⟨channel, errorLevel, message⟩

/-- The level at which the journal repeats entries of the device log. -/
def levelOf : Severity → Int
  | .info => infoLevel
  | .warning => warningLevel
  | .error => errorLevel
  | .critical => criticalLevel

/-- An entry of the device log as the journal repeats it. -/
def Record.ofEntry (e : LogEntry) : Record :=
  ⟨"stratus_sim.device.state", levelOf e.notice.severity,
    "[" ++ e.notice.process ++ "] " ++ e.notice.message⟩

/-- The channel of timed sections. -/
def timingChannel : String := "stratus_sim.perf"

/-- Why the name of a device cannot be set in its column. -/
inductive NameError where
  /-- The name is a number. -/
  | number (kind : String)
  /-- The name is a sequence or a mapping. -/
  | collection (kind : String)
  deriving DecidableEq, Repr

/-- The wording of a failure. -/
def NameError.message : NameError → String
  | .number kind => "Unknown format code 's' for object of type '" ++ kind ++ "'"
  | .collection kind => "unsupported format string passed to " ++ kind ++ ".__format__"

/-- The device that a timed operation is about: the one it names, or else the one it works on. What
counts as false names no device, and only a text names one. -/
def timedHostname (named own : Value) : Except NameError String :=
  let given := if named == .null then own else named
  if !given.truthy then .ok ""
  else
    match given with
    | .str name => .ok name
    | .list _ | .map _ => .error (.collection given.kind)
    | _ => .error (.number given.kind)

/-- The names that extra fields of a timed section cannot have. -/
def timedNames : List String := ["operation", "hostname"]

/-- Extra fields of a timed section: a name that is given again keeps its place and has its last
value. A name that the section has itself is an error. -/
def extraFields (given : List (String × Value)) : Except String (List (String × Value)) :=
  match given.find? fun (name, _) => timedNames.contains name with
  | some (name, _) =>
    .error ("timed_section_sync() got multiple values for argument '" ++ name ++ "'")
  | none =>
    .ok <| given.foldl (fun fields (name, v) =>
      if fields.any fun (n, _) => n == name then
        fields.map fun (n, w) => if n == name then (n, v) else (n, w)
      else fields ++ [(name, v)]) []

/-- The line about a timed section: operation, device, milliseconds, outcome, and the texts of extra
fields. -/
def timingLine (operation hostname : String) (millis : Binary64) (outcome : String)
    (extra : List (String × String)) : String :=
  Text.join " | "
    ([Text.padRight 20 operation,
      Text.padRight 15 (if hostname.isEmpty then "N/A" else hostname),
      Text.padLeft 8 (millis.fixedText 2) ++ "ms", outcome] ++
      extra.map fun (name, text) => name ++ "=" ++ text)

/-- The record of a section that ended, with the text of its failure if it failed. -/
def timingRecord (operation hostname : String) (millis : Binary64) (failure : Option String)
    (extra : List (String × String)) : Record :=
  match failure with
  | none => .info timingChannel (timingLine operation hostname millis "OK" extra)
  | some text =>
    .warning timingChannel (timingLine operation hostname millis ("FAIL: " ++ text) extra)

end LeafSwitch.Site
