import LeafSwitch.Audit.Trail
import LeafSwitch.Block.Staging

/-!
# Applying blocks

A block is staged as a whole and committed in one step, so nobody sees half a block. What was done
is reported, and filed where there is someone to file it.
-/

namespace LeafSwitch

/-- Who files applied blocks, with the name to use for a device without one. -/
structure Tracker where
  /-- The name for devices without one. -/
  hostname : Option String
  deriving DecidableEq, Repr

/-- A block with its history. -/
structure Submission where
  /-- The block. -/
  block : String
  /-- Where it came from. -/
  source : String
  /-- What the operator asked for, if anything. -/
  intent : Option String
  deriving DecidableEq, Repr

/-- What is filed about a submission. -/
def Submission.filing (s : Submission) (hostname : String) (r : Report) : Audit.Filing :=
  { operation := if (s.intent.getD "").isEmpty then "config_apply" else "intent_apply"
    source := s.source
    lines := r.lines
    applied := r.applied
    changed := r.changed
    created := r.created
    block := s.block
    intent := s.intent
    hostname := some hostname }

namespace Switch

/-- The channel of the journal for blocks. -/
def blockChannel : String := "stratus_sim.config_engine.applier"

/-- Stage the directives of a block, commit what is staged, and report on it. -/
def applyStaged (sw : Switch) (directives : List Directive) :
    Except BlockError (Report × Switch) := do
  let staged ← Staging.run sw.device none .none directives
  let site := sw.site.reportAll (staged.details.map (Site.Record.debug blockChannel))
  let after := { sw with site }.perform staged.change
  let changed ← Staging.namesOf after.device (staged.interfaces.map (·.id))
  return ({ lines := directives.length
            applied := staged.applied
            ignored := staged.ignored
            changed
            created := staged.created sw.device }, after)

/-- File an applied block, if there is someone to file it. -/
def track (sw : Switch) (tracker : Option Tracker) (s : Submission) (r : Report) : Switch :=
  match tracker with
  | none => sw
  | some t => { sw with site := (sw.site.file t.hostname (s.filing sw.device.hostname r)).2 }

/-- Apply a block. -/
def applyBlock (sw : Switch) (tracker : Option Tracker) (s : Submission) :
    Except BlockError (Report × Switch) := do
  let (start, site) := sw.site.tick
  let directives ← (directivesOf s.block).mapError .line
  let (r, after) ← { sw with site }.applyStaged directives
  let site := after.site.finish "config_apply" sw.device.hostname start none []
  let after := { after with site }.report
    (.info blockChannel ("Applied config block from " ++ s.source ++ ": " ++ r.summary))
  return (r, after.track tracker s r)

end Switch

end LeafSwitch
