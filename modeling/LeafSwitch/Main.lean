import LeafSwitch.Program.Launch
import LeafSwitch.Program.Surroundings
import LeafSwitch.Web.Http
import LeafSwitch.Web.Retry
import Std.Time.DateTime.Timestamp

/-!
# The program

The command line: it takes the arguments, the environment, the clock and the files of the machine,
and runs the console on standard input and output. No transport to the model service is built in, so
every request to it is lost.
-/

namespace LeafSwitch.Program

/-- The environment variables the program looks at. -/
def consulted : List String :=
  ["HOME", "STRATUS_SEED_FILE", "STRATUS_TELEMETRY_INTERVAL", "STRATUS_TELEMETRY_WINDOW",
    "GEMINI_API_KEY", "API_KEY", "STRATUS_GEMINI_MODEL", "STRATUS_GEMINI_ENDPOINT",
    "STRATUS_GEMINI_TIMEOUT", "STRATUS_GEMINI_RETRIES", "STRATUS_AUDIT_DIR", "STRATUS_LOG_LEVEL",
    "STRATUS_LOG_FILE", "STRATUS_LOG_MAX_SIZE", "STRATUS_LOG_BACKUPS"]

/-- The variables that are set. -/
def environment : IO (List (String × String)) :=
  consulted.filterMapM fun name => do
    return (← IO.getEnv name).map fun text => (name, Text.received text)

/-- The text of a file, if there is one. -/
def fileEntry (path : String) : IO (List (String × String)) := do
  try return [(path, Text.received (← IO.FS.readFile (Text.sent path)))] catch _ => return []

/-- The site of a real run. -/
def siteOf (o : Options) : IO Site := do
  let env ← environment
  let seed := (o.seed.or (env.lookup "STRATUS_SEED_FILE")).getD ""
  let now := (← Std.Time.Timestamp.now).toNanosecondsSinceUnixEpoch.val / 1000
  return surroundings now 1 (now / 1000000) env (← fileEntry seed)

/-- Append to a file of the machine, whose directory is made if there is none. -/
def appendFile (path text : String) : IO Unit := do
  if text.isEmpty then return
  IO.FS.createDirAll (Text.sent (Site.Path.ofText path).parent.text)
  let handle ← IO.FS.Handle.mk (Text.sent path) .append
  handle.putStr (Text.sent text)

/-- Write out the journal and the audit file, and forget what has been written. -/
def flushSite (setup : Logging.Setup) (s : Site) : IO Site := do
  (← IO.getStderr).putStr (Text.sent (Logging.consoleLog setup s.journal))
  appendFile setup.file.text (Logging.addedToMain setup s.journal)
  let timings := Logging.timingFile setup.file
  if timings != setup.file then
    appendFile timings.text (Logging.addedToTimings setup s.journal)
  match s.auditFile with
  | some path => appendFile path (s.files.textAt path)
  | none => pure ()
  return { s with journal := [], files := .ofList [] }

/-- Write out what the console has to say. -/
def flushConsole (setup : Logging.Setup) (c : Console) : IO Console := do
  let out ← IO.getStdout
  out.putStr (Text.sent c.output)
  out.flush
  let site ← flushSite setup c.switch.site
  return { c with output := "", switch := { c.switch with site } }

/-- Draw anew for a sample. -/
def drawn : IO Telemetry.Draws := do
  let reals ← (List.range 4).mapM fun _ => IO.rand 0 (Nat.pow 2 53 - 1)
  let wholes ← (List.range 2).mapM fun _ => IO.rand 0 (Nat.pow 2 20)
  return .fresh reals (wholes.map Int.ofNat)

/-- Take the samples that have fallen due by now, where `next` is the time in milliseconds at which
the next one does. -/
partial def catchUp (period next : Nat) (c : Console) (w : Telemetry.Window) :
    IO (Nat × Console × Telemetry.Window) := do
  if (← IO.monoMsNow) < next then return (next, c, w)
  let (point, _, switch) := c.switch.sample (← drawn)
  catchUp period (next + period) { c with switch } (w.push point)

/-- Read lines and handle them until there are no more or the operator leaves, or until one has no
answer. -/
partial def converse (r : Ready) (period next : Nat) : IO (Except DisplayError Unit × Ready) := do
  let console ← flushConsole r.setup (r.console.put r.console.prompt).pump
  let line := Text.received (← (← IO.getStdin).getLine)
  let (next, console, window) ← match r.window with
    | none => pure (next, console, none)
    | some w => do
      let (next, console, w) ← catchUp period next console w
      pure (next, console, some w)
  let r := { r with window }
  if line.isEmpty then return (.ok (), { r with console })
  match console.handle line with
  | (.ok true, console) => converse { r with console } period next
  | (.ok false, console) => return (.ok (), { r with console })
  | (.error cause, console) => return (.error cause, { r with console })

/-- The milliseconds between samples, one at least. -/
def periodOf (settings : Settings) : Nat :=
  match settings.telemetryInterval with
  | .float x => max 1 (((x.mul (.ofInt 1000)).truncate?).getD 1).toNat
  | _ => 1000

/-- The model service as it is without a transport. -/
def noService : Service :=
  ⟨Web.http, Web.clientRetrier, fun _ => .lost (.raised (Web.raised "ConnectError" "no transport"))⟩

/-- Run the program. -/
def run (arguments : List String) : IO UInt32 := do
  match readArguments (arguments.map Text.received) with
  | .error refusal => return refusal.exitCode.toUInt32
  | .ok o =>
    match start (← siteOf o) o noService with
    | .error e => throw (IO.userError e.cause.message)
    | .ok (.refused setup site) =>
      let _ ← flushSite setup site
      return 1
    | .ok (.ready r) =>
      let period := periodOf r.settings
      let r := { r with console := r.console.write Console.welcome }
      let (result, r) ← converse r period ((← IO.monoMsNow) + period)
      let console := if result.toOption.isSome then r.console.pump else r.console
      let r := { r with console }.conclude
      let _ ← flushConsole r.setup r.console
      match result with
      | .ok () => return 0
      | .error cause => throw (IO.userError cause.message)

end LeafSwitch.Program

/-- The entry of the program. -/
def main (arguments : List String) : IO UInt32 :=
  LeafSwitch.Program.run arguments
