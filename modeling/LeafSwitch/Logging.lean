import LeafSwitch.Number.Integer
import LeafSwitch.Site.State

/-!
# Log output

The journal is written to the console from some level up, to the main log from the level of details
up, and timings are written to a log of their own. What each log shows is a text made from records.
-/

namespace LeafSwitch

namespace Logging

open Site (Record)

/-- A letter as it counts in the name of a level; the dotless i and the long s count as letters of
the names, and a ligature as two of them. -/
def upperLetters (c : Char) : List Char :=
  if c == '\u0131' then ['I']
  else if c == '\u017f' then ['S']
  else if c == '\ufb05' || c == '\ufb06' then ['S', 'T']
  else [c.toUpper]

/-- A name of a level in capitals. -/
def capitals (name : String) : String :=
  String.ofList (name.toList.flatMap upperLetters)

/-- What is known under a name. -/
inductive Named where
  /-- A level. -/
  | level (n : Int)
  /-- The layout of records. -/
  | layout
  /-- The styles that layouts are written in. -/
  | styles
  deriving DecidableEq, Repr

/-- The layout of records, which shares its name space with the levels. -/
def basicLayout : String := "%(levelname)s:%(name)s:%(message)s"

/-- What a name stands for. -/
def meaning? (name : String) : Option Named :=
  let names : List (String × Named) :=
    [("DEBUG", .level Site.debugLevel), ("INFO", .level Site.infoLevel),
      ("WARNING", .level Site.warningLevel), ("WARN", .level Site.warningLevel),
      ("ERROR", .level Site.errorLevel), ("CRITICAL", .level Site.criticalLevel),
      ("FATAL", .level Site.criticalLevel), ("NOTSET", .level 0), ("BASIC_FORMAT", .layout),
      ("_STYLES", .styles)]
  names.lookup (capitals name)

/-- What a name is taken for; a name that stands for nothing is taken for the level of regular
events. -/
def meaning (name : String) : Named :=
  (meaning? name).getD (.level Site.infoLevel)

/-- How styles of layouts are shown: each mark with the kind of its style and its basic layout. -/
def stylesText : String :=
  let style (mark kind layout : String) :=
    "'" ++ mark ++ "': (<class 'logging." ++ kind ++ "'>, '" ++ layout ++ "')"
  "\x7b" ++ Text.join ", "
    [style "%" "PercentStyle" basicLayout,
      style "\x7b" "StrFormatStyle" "\x7blevelname\x7d:\x7bname\x7d:\x7bmessage\x7d",
      style "$" "StringTemplateStyle" "$\x7blevelname\x7d:$\x7bname\x7d:$\x7bmessage\x7d"] ++
    "\x7d"

/-- Why logs cannot be set up. -/
inductive SetupError where
  /-- There is no home directory. -/
  | home
  /-- A variable does not hold a whole number. -/
  | whole (cause : Number.IntegerError)
  /-- A log cannot be opened. -/
  | file (cause : Site.FileError)
  /-- The level is a layout. -/
  | layout
  /-- The level is a table of styles. -/
  | styles
  deriving DecidableEq, Repr

/-- The wording of a failure. -/
def SetupError.message : SetupError → String
  | .home => "Could not determine home directory."
  | .whole cause => cause.message
  | .file cause => cause.message
  | .layout => "Unknown level: " ++ Text.quoted basicLayout
  | .styles => "Level not an integer or a valid string: " ++ stylesText

/-- The level that a name stands for. -/
def Named.toLevel : Named → Except SetupError Int
  | .level n => .ok n
  | .layout => .error .layout
  | .styles => .error .styles

/-- How logs are set up. -/
structure Setup where
  /-- The level from which the console shows records. -/
  consoleLevel : Int
  /-- The main log. -/
  file : Site.Path
  /-- The size in bytes at which a log is rolled over. -/
  maxBytes : Int
  /-- How many old logs are kept. -/
  backups : Int
  /-- What the main log held before. -/
  earlier : String
  /-- What the log of timings held before. -/
  earlierTimings : String
  deriving DecidableEq, Repr

/-- The log of timings beside a main log. -/
def timingFile (file : Site.Path) : Site.Path :=
  file.parent.child "stratus-sim-perf.log"

/-- The channel all others are below. -/
def rootChannel : String := "stratus_sim"

/-- Whether a channel is another one or below it. -/
def isWithin (root channel : String) : Bool :=
  channel == root || (root ++ ".").toList.isPrefixOf channel.toList

/-- Whether a record is written anywhere. -/
def isKept (r : Record) : Bool :=
  isWithin rootChannel r.channel && r.level ≥ Site.debugLevel

/-- Whether a record is about timings. -/
def isTiming (r : Record) : Bool :=
  isWithin Site.timingChannel r.channel

/-- A line of the main log, without its time. -/
def mainLine (r : Record) : String :=
  Text.padRight 28 r.channel ++ " | " ++ Text.padRight 7 (Site.levelName r.level) ++ " | " ++
    r.message ++ "\n"

/-- A line of the log of timings, without its time. -/
def timingText (r : Record) : String :=
  "PERF | " ++ r.message ++ "\n"

/-- The records of the main log. -/
def mainRecords (records : List Record) : List Record :=
  records.filter fun r => isKept r && !isTiming r

/-- The line of a record in a file, where the file is the main log, the log of timings, or both. -/
def fileLine (ofMain ofTimings : Bool) (r : Record) : String :=
  if !isKept r then ""
  else if isTiming r then if ofTimings then timingText r else ""
  else if ofMain then mainLine r else ""

/-- What records add to the main log. -/
def addedToMain (s : Setup) (records : List Record) : String :=
  Text.join "" (records.map (fileLine true (s.file == timingFile s.file)))

/-- What records add to the log of timings. -/
def addedToTimings (s : Setup) (records : List Record) : String :=
  Text.join "" (records.map (fileLine (s.file == timingFile s.file) true))

/-- What the main log holds. -/
def mainLog (s : Setup) (records : List Record) : String :=
  s.earlier ++ addedToMain s records

/-- What the log of timings holds. -/
def timingLog (s : Setup) (records : List Record) : String :=
  s.earlierTimings ++ addedToTimings s records

/-- The line of a record on the console. Records of other programs are shown by their text alone,
and only if they are warnings or graver. -/
def consoleLine (s : Setup) (r : Record) : String :=
  if !isWithin rootChannel r.channel then
    if r.level ≥ Site.warningLevel then r.message ++ "\n" else ""
  else if isKept r && !isTiming r && r.level ≥ s.consoleLevel then mainLine r
  else ""

/-- What the console shows. -/
def consoleLog (s : Setup) (records : List Record) : String :=
  Text.join "" (records.map (consoleLine s))

end Logging

namespace Site

/-- What the environment names as the level, or else a given name stands for. -/
def logLevel (s : Site) (absent : String) : Logging.Named :=
  Logging.meaning ((s.fromEnv? "STRATUS_LOG_LEVEL").getD absent)

/-- The main log that the environment names, or the one in the home directory, which must be known
in any case. -/
def logFile (s : Site) : Except Logging.SetupError Path :=
  let home := s.expanded "~"
  if home.toList.head? = some '~' then .error .home
  else
    .ok <| match s.fromEnv? "STRATUS_LOG_FILE" with
      | some path => .ofText path
      | none => ((Path.ofText home).child ".stratus-sim").child "stratus-sim.log"

/-- The whole number in a variable. -/
def wholeVariable (s : Site) (name : String) (absent : Int) : Except Logging.SetupError Int :=
  match s.fromEnv? name with
  | none => .ok absent
  | some text => (Number.readInteger text).mapError .whole

/-- Set up logs at a level, or at the one that the environment names; the journal tells of it. -/
def setUpLogs (s : Site) (level : Option String) :
    Except Logging.SetupError (Logging.Setup × Site) := do
  let chosen := match level.filter (· != "") with
    | some name => Logging.meaning name
    | none => s.logLevel "INFO"
  let file ← s.logFile
  let megabytes ← s.wholeVariable "STRATUS_LOG_MAX_SIZE" 10
  let backups ← s.wholeVariable "STRATUS_LOG_BACKUPS" 5
  let files ← (s.files.ensureDirectories file.parent).mapError .file
  let consoleLevel ← chosen.toLevel
  let timings := Logging.timingFile file
  let files ← (files.append file.text "").mapError .file
  let files ← (files.append timings.text "").mapError .file
  let setup : Logging.Setup :=
    { consoleLevel, file, maxBytes := megabytes * 1024 * 1024, backups
      earlier := files.textAt file.text
      earlierTimings := files.textAt timings.text }
  let s := { s with files }.report (.info Logging.rootChannel
    ("Logging initialized: level=" ++ levelName consoleLevel ++ ", file=" ++ file.text))
  return (setup, s.report (.info timingChannel ("Performance logging to: " ++ timings.text)))

end Site

end LeafSwitch
