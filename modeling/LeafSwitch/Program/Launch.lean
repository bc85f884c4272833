import LeafSwitch.Console.Run
import LeafSwitch.Logging
import LeafSwitch.Program.Arguments
import LeafSwitch.Telemetry.Run

/-!
# Launching

The program sets up its logs, its settings and its audit file, starts the device and runs the
console. A seed with a fault ends it with exit code 1; other failures on the way are not handled.
-/

namespace LeafSwitch.Program

/-- Why a launch fails. -/
inductive LaunchError where
  /-- The logs cannot be set up. -/
  | logs (cause : Logging.SetupError)
  /-- There are no settings. -/
  | settings (cause : Settings.Error)
  /-- What is named as the directory of the audit file is no path. -/
  | auditPath (kind : String)
  /-- The audit file cannot be set up. -/
  | audit (cause : Site.FileError)
  /-- The seed makes no device, and not for a fault that is reported. -/
  | seed (cause : Seed.Error)
  /-- Telemetry cannot keep its window. -/
  | window (cause : Telemetry.WindowError)
  /-- The interval of telemetry cannot be shown. -/
  | interval (cause : ShowError)
  /-- A line has no answer. -/
  | answer (cause : DisplayError)
  deriving DecidableEq, Repr

/-- The wording of a failure. -/
def LaunchError.message : LaunchError → String
  | .logs cause => cause.message
  | .settings cause => cause.message
  | .auditPath kind => "expected str, bytes or os.PathLike object, not " ++ kind
  | .audit cause => cause.message
  | .seed cause => cause.message
  | .window cause => cause.message
  | .interval cause => cause.message
  | .answer cause => cause.message

/-- A launch that failed on the way. -/
structure Aborted where
  /-- Why it failed. -/
  cause : LaunchError
  /-- The site as it was left. -/
  site : Site

/-- A console that is ready to run. -/
structure Ready where
  /-- How logs are set up. -/
  setup : Logging.Setup
  /-- The settings. -/
  settings : Settings
  /-- The console. -/
  console : Console
  /-- The window of telemetry, if it runs. -/
  window : Option Telemetry.Window

/-- What a start leads to. -/
inductive Start where
  /-- The seed has a fault, which is reported. -/
  | refused (setup : Logging.Setup) (site : Site)
  /-- The console can run. -/
  | ready (r : Ready)

/-- The model service, as far as a start needs it. -/
structure Service where
  /-- What carries requests to it. -/
  http : Intent.Http
  /-- What repeats them. -/
  retrier : Intent.Retrier Intent.ClientError String
  /-- What comes of the requests. -/
  outcomes : Nat → Intent.Outcome

/-- The client of a service, which waits from 1 up to 10 seconds between attempts. -/
def Service.clientFor (service : Service) (settings : Settings) : Intent.Client :=
  ⟨settings, .ofInt 1, .ofInt 10, service.http, service.retrier⟩

/-- The window of telemetry that the settings ask for. -/
def windowOf (settings : Settings) : Except Telemetry.WindowError Telemetry.Window :=
  Telemetry.Window.ofLength ((settings.telemetryWindow.toWhole.toOption).getD 0)

/-- Make the console of a switch, and start telemetry if it is wanted. -/
def makeReady (setup : Logging.Setup) (settings : Settings) (telemetry : Bool) (service : Service)
    (sw : Switch) : Except Aborted Ready := do
  let console (sw : Switch) :=
    Console.ofSwitch sw (some ⟨none⟩) (.service (service.clientFor settings) service.outcomes)
  if telemetry then
    let w ← (windowOf settings).mapError fun e => ⟨.window e, sw.site⟩
    let interval ← (settings.telemetryInterval.text sw.site.nesting.shown).mapError
      fun e => ⟨.interval e, sw.site⟩
    return ⟨setup, settings, console (sw.report (Telemetry.startRecord interval w)), some w⟩
  else return ⟨setup, settings, console sw, none⟩

/-- The directory of the audit file that the settings name, if they name one. -/
def auditDirectory (settings : Settings) : Except LaunchError (Option String) :=
  match settings.auditDir with
  | .null => .ok none
  | .str path => .ok (some path)
  | other => .error (.auditPath other.kind)

/-- Start up at a site. -/
def start (s : Site) (o : Options) (service : Service) : Except Aborted Start := do
  let (setup, s) ← (s.setUpLogs o.logLevel).mapError fun e => ⟨.logs e, s⟩
  let settings ← s.settings.mapError fun e => ⟨.settings e, s⟩
  let directory ← (auditDirectory settings).mapError fun e => ⟨e, s⟩
  let (_, s) ← (s.openAudit directory).mapError fun e => ⟨.audit e, s⟩
  match s.bootFrom o.seed settings.seedFile with
  | .error (.refused fault) =>
    let record := Site.Record.error Console.channel ("Could not load seed: " ++ fault.message)
    return .refused setup (s.report record)
  | .error e => .error ⟨.seed e, s⟩
  | .ok sw => (makeReady setup settings o.telemetry service sw).map .ready

/-- The console after a run has ended, with telemetry stopped if it was running. -/
def Ready.conclude (r : Ready) : Ready :=
  match r.window with
  | none => r
  | some _ =>
    { r with console := { r.console with
        switch := r.console.switch.report Telemetry.stopRecord } }

/-- What a whole run comes to. -/
structure Finished where
  /-- The exit code. -/
  code : Nat
  /-- What was written, prompts included. -/
  output : String
  /-- How logs were set up. -/
  setup : Logging.Setup
  /-- The site in the end. -/
  site : Site

/-- A whole run over the lines of the operator. -/
def launch (s : Site) (o : Options) (service : Service) (lines : List String) :
    Except Aborted Finished := do
  match ← start s o service with
  | .refused setup site => return ⟨1, "", setup, site⟩
  | .ready r =>
    let (result, console) := r.console.dialogue lines
    let r := { r with console }.conclude
    let site := r.console.switch.site
    match result with
    | .ok () => return ⟨0, r.console.output, r.setup, site⟩
    | .error cause => .error ⟨.answer cause, site⟩

end LeafSwitch.Program
