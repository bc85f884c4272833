import LeafSwitch.Main
import LeafSwitch.Proofs.Text.Words
import LeafSwitch.Proofs.Text.Lines
import LeafSwitch.Proofs.Text.Whole
import LeafSwitch.Proofs.Text.Columns
import LeafSwitch.Proofs.Text.Separated
import LeafSwitch.Proofs.Time.Calendar
import LeafSwitch.Proofs.Time.Text
import LeafSwitch.Proofs.Time.Iso
import LeafSwitch.Proofs.Number.Bounds
import LeafSwitch.Proofs.Number.Order
import LeafSwitch.Proofs.Number.Decimal
import LeafSwitch.Proofs.Json.Number
import LeafSwitch.Proofs.Json.Text
import LeafSwitch.Proofs.Json.Written
import LeafSwitch.Proofs.Json.Value
import LeafSwitch.Proofs.Device.Vlans
import LeafSwitch.Proofs.Device.WellFormed
import LeafSwitch.Proofs.Device.Log
import LeafSwitch.Proofs.Device.Shown
import LeafSwitch.Proofs.Data.Shown
import LeafSwitch.Proofs.Data.Steps
import LeafSwitch.Proofs.Site.Stamps
import LeafSwitch.Proofs.Site.Surroundings
import LeafSwitch.Proofs.Site.Files
import LeafSwitch.Proofs.Site.Path
import LeafSwitch.Proofs.Block.Reading
import LeafSwitch.Proofs.Block.Context
import LeafSwitch.Proofs.Block.Effect
import LeafSwitch.Proofs.Block.Overlay
import LeafSwitch.Proofs.Block.Staged
import LeafSwitch.Proofs.Block.Applied
import LeafSwitch.Proofs.Block.Meaning
import LeafSwitch.Proofs.Block.Direct
import LeafSwitch.Proofs.Block.Account
import LeafSwitch.Proofs.Block.Lines
import LeafSwitch.Proofs.Block.Layout
import LeafSwitch.Proofs.Block.Alike
import LeafSwitch.Proofs.Block.Inert
import LeafSwitch.Proofs.Block.Sequence
import LeafSwitch.Proofs.Block.Again
import LeafSwitch.Proofs.Block.Port
import LeafSwitch.Proofs.Intent.Reply
import LeafSwitch.Proofs.Intent.Parts
import LeafSwitch.Proofs.Intent.Retry
import LeafSwitch.Proofs.Intent.Outcome
import LeafSwitch.Proofs.Web.Documented
import LeafSwitch.Proofs.Intent.Client
import LeafSwitch.Proofs.Audit.Record
import LeafSwitch.Proofs.Audit.Trail
import LeafSwitch.Proofs.Audit.Malformed
import LeafSwitch.Proofs.Audit.Recent
import LeafSwitch.Proofs.Session.Run
import LeafSwitch.Proofs.Session.Showable
import LeafSwitch.Proofs.Session.Files
import LeafSwitch.Proofs.Session.Mirror
import LeafSwitch.Proofs.Session.Names
import LeafSwitch.Proofs.Session.Ledger
import LeafSwitch.Proofs.Session.Trail
import LeafSwitch.Proofs.Session.Ports
import LeafSwitch.Proofs.Session.Footprint
import LeafSwitch.Proofs.Session.Transition
import LeafSwitch.Proofs.Session.Alike
import LeafSwitch.Proofs.Checked.Fault
import LeafSwitch.Proofs.Checked.Directive
import LeafSwitch.Proofs.Checked.Apply
import LeafSwitch.Proofs.Checked.Command
import LeafSwitch.Proofs.Checked.Run
import LeafSwitch.Proofs.Session.VlanText
import LeafSwitch.Proofs.Seed.Reading
import LeafSwitch.Proofs.Seed.Vlans
import LeafSwitch.Proofs.Seed.Names
import LeafSwitch.Proofs.Session.Toggle
import LeafSwitch.Proofs.Session.Table
import LeafSwitch.Proofs.Telemetry.Watch
import LeafSwitch.Proofs.Telemetry.Loop
import LeafSwitch.Proofs.Console.Event
import LeafSwitch.Proofs.Console.Lines
import LeafSwitch.Proofs.Console.Tasks
import LeafSwitch.Proofs.Console.Display
import LeafSwitch.Proofs.Console.Progress
import LeafSwitch.Proofs.Console.SingleFlight
import LeafSwitch.Proofs.Console.Loop
import LeafSwitch.Proofs.Console.Analyses
import LeafSwitch.Proofs.Console.Answered
import LeafSwitch.Proofs.Console.Serial
