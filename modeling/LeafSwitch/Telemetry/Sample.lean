import LeafSwitch.Number.Fixed
import LeafSwitch.Switch

/-!
# Telemetry samples

A sample is made up from the number of interfaces in service and from random draws. It reads the
device and says something only where it counts errors. The last samples are kept in a window.
-/

namespace LeafSwitch

open Number (Binary64)

namespace Telemetry

/-- Random draws that are laid out beforehand. Where none are left, a real one is one half and a
whole one the least. -/
structure Draws where
  /-- The real draws to come, each in units of `2 ^ -53`. -/
  reals : List Nat
  /-- The whole draws to come, each taken round the range asked for. -/
  wholes : List Int
  /-- The real draws made. -/
  realsUsed : Nat
  /-- The whole draws made. -/
  wholesUsed : Nat
  deriving DecidableEq, Repr

namespace Draws

/-- Draws of which none has been made. -/
def fresh (reals : List Nat) (wholes : List Int) : Draws := ⟨reals, wholes, 0, 0⟩

/-- Draw a real number from zero up to below one. -/
def real (d : Draws) : Binary64 × Draws :=
  (.ofRatio false (d.reals.head?.getD (Nat.pow 2 52)) (Nat.pow 2 53),
    { d with reals := d.reals.tail, realsUsed := d.realsUsed + 1 })

/-- Draw a whole number between two others. -/
def whole (d : Draws) (least greatest : Int) : Int × Draws :=
  (least + (d.wholes.head?.getD 0) % (greatest - least + 1),
    { d with wholes := d.wholes.tail, wholesUsed := d.wholesUsed + 1 })

end Draws

/-- A sample. -/
structure Point where
  /-- When it was taken, in milliseconds since 1970. -/
  timestamp : Binary64
  /-- The throughput in Gbps. -/
  throughput : Binary64
  /-- The latency in milliseconds. -/
  latency : Binary64
  /-- The errors counted. -/
  errors : Int
  deriving DecidableEq, Repr

/-- A decimal constant. -/
def decimal (digits : Nat) (places : Nat) : Binary64 :=
  .ofDecimal false digits (-(places : Int))

/-- The throughput with a number of interfaces in service: 2.5 each, and noise from -0.5 up to
below 1. -/
def throughput (up : Nat) (draw : Binary64) : Binary64 :=
  let noise := Binary64.sub (.mul draw (decimal 15 1)) (decimal 5 1)
  let x := (Binary64.add (.mul (.ofInt up) (decimal 25 1)) noise).roundPlaces 2
  if Binary64.lt (.zero false) x then x else .zero false

/-- Draw a latency: 2, and up to 15 more in one case out of ten. -/
def latency (d : Draws) : Binary64 × Draws :=
  let (chance, d) := d.real
  let (spike, d) :=
    if chance.lt (decimal 1 1) then
      let (size, d) := d.real
      (size.mul (.ofInt 15), d)
    else (.zero false, d)
  ((Binary64.add (.ofInt 2) spike).roundPlaces 2, d)

/-- Draw a count of errors: up to 4 in one case out of twenty. -/
def errorCount (d : Draws) : Int × Draws :=
  let (chance, d) := d.real
  if chance.lt (decimal 5 2) then d.whole 0 4 else (0, d)

/-- The notice about errors on the interface with a number. -/
def errorNotice (number : Int) : Notice :=
  ⟨.warning, "Phy", "Input errors detected on Ethernet" ++ toString number⟩

/-- Why there can be no window of some length. -/
inductive WindowError where
  /-- The length is negative. -/
  | negative
  /-- The length is beyond all memory. -/
  | tooLong
  deriving DecidableEq, Repr

/-- The wording of a failure. -/
def WindowError.message : WindowError → String
  | .negative => "maxlen must be non-negative"
  | .tooLong => "Python int too large to convert to C ssize_t"

/-- The last samples taken. -/
structure Window where
  /-- How many are kept. -/
  length : Nat
  /-- The samples, oldest first. -/
  points : List Point
  deriving DecidableEq, Repr

namespace Window

/-- An empty window of some length. -/
def ofLength (length : Int) : Except WindowError Window :=
  let bound : Int := Nat.pow 2 63
  if length ≥ bound || length < -bound then .error .tooLong
  else if length < 0 then .error .negative
  else .ok ⟨length.toNat, []⟩

/-- Add a sample; the oldest ones go where there are too many. -/
def push (w : Window) (p : Point) : Window :=
  let all := w.points ++ [p]
  { w with points := all.drop (all.length - w.length) }

/-- The last sample. -/
def latest? (w : Window) : Option Point :=
  w.points.getLast?

end Window

end Telemetry

namespace Switch

/-- Take a sample: its draws are made in a fixed order, and errors are reported in the log. -/
def sample (sw : Switch) (d : Telemetry.Draws) : Telemetry.Point × Telemetry.Draws × Switch :=
  let up := (sw.device.interfaces.filter (·.status == .up)).length
  let (noise, d) := d.real
  let (latency, d) := Telemetry.latency d
  let (errors, d) := Telemetry.errorCount d
  let seconds := sw.site.seconds sw.site.samples
  let point : Telemetry.Point :=
    ⟨seconds.mul (.ofInt 1000), Telemetry.throughput up noise, latency, errors⟩
  let sw := { sw with site := { sw.site with samples := sw.site.samples + 1 } }
  if errors > 0 then
    let (number, d) := d.whole 1 4
    (point, d, sw.append (Telemetry.errorNotice number))
  else (point, d, sw)

end Switch

end LeafSwitch
