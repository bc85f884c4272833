import LeafSwitch.Audit.Trail
import LeafSwitch.Data.Entries
import LeafSwitch.Number.Reading
import LeafSwitch.Seed

/-!
# Settings

Settings are values under fixed names. They come from the environment, and a file may overlay them;
a file is not asked for kinds, so a setting may hold any value.
-/

namespace LeafSwitch

/-- The settings of the program. -/
structure Settings where
  /-- The seed file, if any. -/
  seedFile : Value
  /-- The seconds between telemetry samples. -/
  telemetryInterval : Value
  /-- How many telemetry points are kept. -/
  telemetryWindow : Value
  /-- The key for the model service, if any. -/
  geminiApiKey : Value
  /-- The name of the model. -/
  geminiModel : Value
  /-- Where the model service is. -/
  geminiEndpoint : Value
  /-- The seconds after which a request is given up. -/
  geminiTimeout : Value
  /-- The attempts per request. -/
  geminiRetries : Value
  /-- The directory of the audit file. -/
  auditDir : Value
  deriving DecidableEq, Repr

namespace Settings

/-- The settings where nothing else is said. -/
def default : Settings :=
  { seedFile := .null
    telemetryInterval := .float (.ofInt 1)
    telemetryWindow := .int 60
    geminiApiKey := .null
    geminiModel := .str "gemini-2.5-flash"
    geminiEndpoint := .str "https://generativelanguage.googleapis.com/v1beta"
    geminiTimeout := .float (.ofInt 30)
    geminiRetries := .int 3
    auditDir := .str Audit.defaultDirectory }

/-- The settings under their names. -/
def fields (s : Settings) : List (String × Value) :=
  [("seed_file", s.seedFile), ("telemetry_interval", s.telemetryInterval),
    ("telemetry_window", s.telemetryWindow), ("gemini_api_key", s.geminiApiKey),
    ("gemini_model", s.geminiModel), ("gemini_endpoint", s.geminiEndpoint),
    ("gemini_timeout", s.geminiTimeout), ("gemini_retries", s.geminiRetries),
    ("audit_dir", s.auditDir)]

/-- Put a value under a name; there is nothing to put it into where the name is no setting's. -/
def put? (s : Settings) (name : String) (v : Value) : Option Settings :=
  match name with
  | "seed_file" => some { s with seedFile := v }
  | "telemetry_interval" => some { s with telemetryInterval := v }
  | "telemetry_window" => some { s with telemetryWindow := v }
  | "gemini_api_key" => some { s with geminiApiKey := v }
  | "gemini_model" => some { s with geminiModel := v }
  | "gemini_endpoint" => some { s with geminiEndpoint := v }
  | "gemini_timeout" => some { s with geminiTimeout := v }
  | "gemini_retries" => some { s with geminiRetries := v }
  | "audit_dir" => some { s with auditDir := v }
  | _ => none

/-- Why there are no settings. -/
inductive Error where
  /-- A variable does not hold a double. -/
  | real (cause : Number.RealError)
  /-- A variable does not hold a whole number. -/
  | whole (cause : Number.IntegerError)
  /-- The file cannot be read. -/
  | file (cause : Site.FileError)
  /-- The file cannot be made out. -/
  | document (cause : Yaml.LoadError)
  /-- The file holds something that is not a mapping. -/
  | notMapping (kind : String)
  /-- A name cannot be shown. -/
  | unshown (cause : ShowError)
  deriving DecidableEq, Repr

/-- The wording of a failure. -/
def Error.message : Error → String
  | .real cause => cause.message
  | .whole cause => cause.message
  | .file cause => cause.message
  | .document cause => cause.message
  | .notMapping kind => "'" ++ kind ++ "' object has no attribute 'items'"
  | .unshown cause => cause.message

end Settings

namespace Site

/-- The text of a variable, where it holds something. -/
def filled? (s : Site) (name : String) : Option String :=
  (s.fromEnv? name).filter fun text => !text.isEmpty

/-- The text of a variable as a value, or another value where there is no such variable. -/
def textSetting (s : Site) (name : String) (absent : Value) : Value :=
  ((s.fromEnv? name).map Value.str).getD absent

/-- The double in a variable. -/
def realSetting (s : Site) (name : String) (absent : Value) : Except Settings.Error Value :=
  match s.fromEnv? name with
  | none => .ok absent
  | some text => ((Number.readReal text).map Value.float).mapError .real

/-- The whole number in a variable. -/
def wholeSetting (s : Site) (name : String) (absent : Value) : Except Settings.Error Value :=
  match s.fromEnv? name with
  | none => .ok absent
  | some text => ((Number.readInteger text).map Value.int).mapError .whole

/-- The settings that the environment makes. -/
def settings (s : Site) : Except Settings.Error Settings := do
  let d := Settings.default
  let telemetryInterval ← s.realSetting "STRATUS_TELEMETRY_INTERVAL" d.telemetryInterval
  let telemetryWindow ← s.wholeSetting "STRATUS_TELEMETRY_WINDOW" d.telemetryWindow
  let geminiTimeout ← s.realSetting "STRATUS_GEMINI_TIMEOUT" d.geminiTimeout
  let geminiRetries ← s.wholeSetting "STRATUS_GEMINI_RETRIES" d.geminiRetries
  return {
    seedFile := ((s.filled? "STRATUS_SEED_FILE").map Value.str).getD d.seedFile
    telemetryInterval
    telemetryWindow
    geminiApiKey :=
      (((s.filled? "GEMINI_API_KEY").or (s.filled? "API_KEY")).map Value.str).getD d.geminiApiKey
    geminiModel := s.textSetting "STRATUS_GEMINI_MODEL" d.geminiModel
    geminiEndpoint := s.textSetting "STRATUS_GEMINI_ENDPOINT" d.geminiEndpoint
    geminiTimeout
    geminiRetries
    auditDir := s.textSetting "STRATUS_AUDIT_DIR" d.auditDir }

/-- The channel of the journal for settings. -/
def settingsChannel : String := "stratus_sim.config.settings"

/-- Put the entries of a file over settings; names that are no setting's are reported. -/
def overlay (s : Site) (settings : Settings) :
    List (Value × Value) → Except Settings.Error (Settings × Site)
  | [] => .ok (settings, s)
  | (key, v) :: rest =>
    let changed? := match key with
      | .str name => settings.put? name v
      | _ => none
    match changed? with
    | some changed => s.overlay changed rest
    | none =>
      match key.text s.nesting.shown with
      | .error cause => .error (.unshown cause)
      | .ok name =>
        let record := Record.warning settingsChannel ("Ignoring unknown setting: " ++ name)
        (s.report record).overlay settings rest

/-- Put the settings of a file over base settings, or over those that the environment makes. -/
def settingsFrom (s : Site) (path : String) (base : Option Settings) :
    Except Settings.Error (Settings × Site) := do
  let settings ← match base with
    | some settings => pure settings
    | none => s.settings
  let path := (Path.ofText path).text
  if !(← (s.files.checkHolds path).mapError .file) then
    return (settings, s.report (.warning settingsChannel ("Settings file not found: " ++ path)))
  let document ← (s.document path).mapError .file
  let data ← document.mapError .document
  match data with
  | .map entries => s.overlay settings entries
  | v => if v.truthy then .error (.notMapping v.kind) else return (settings, s)

end Site

end LeafSwitch
