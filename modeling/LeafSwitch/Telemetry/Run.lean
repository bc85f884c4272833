import LeafSwitch.Telemetry.Sample

/-!
# Telemetry runs

A run takes sample after sample until it is stopped. A sample that fails is reported, and the run
goes on.
-/

namespace LeafSwitch

namespace Telemetry

/-- The channel of the journal for telemetry. -/
def channel : String := "stratus_sim.telemetry.generator"

/-- One turn of a run. -/
inductive Turn where
  /-- A sample is taken with some draws. -/
  | sample (draws : Draws)
  /-- Taking the sample fails, with the text of the failure. -/
  | failure (text : String)
  deriving DecidableEq, Repr

/-- The record of a run that starts, with the text of its interval. -/
def startRecord (interval : String) (w : Window) : Site.Record :=
  .info channel ("Telemetry started: interval=" ++ interval ++ "s window=" ++ toString w.length)

/-- The record of a run that ends. -/
def stopRecord : Site.Record := .info channel "Telemetry stopped"

end Telemetry

namespace Switch

/-- Take the turns of a run. -/
def turns (sw : Switch) (w : Telemetry.Window) : List Telemetry.Turn → Telemetry.Window × Switch
  | [] => (w, sw)
  | .sample draws :: rest =>
    let (point, _, sw) := sw.sample draws
    sw.turns (w.push point) rest
  | .failure text :: rest =>
    (sw.report (.error Telemetry.channel ("Telemetry sample failed: " ++ text))).turns w rest

/-- A whole run, with the text of its interval. -/
def runTelemetry (sw : Switch) (interval : String) (w : Telemetry.Window)
    (plan : List Telemetry.Turn) : Telemetry.Window × Switch :=
  let (w, sw) := (sw.report (Telemetry.startRecord interval w)).turns w plan
  (w, sw.report Telemetry.stopRecord)

end Switch

end LeafSwitch
