import LeafSwitch.Text.Layout

/-!
# Reports

What applying a block has done, for the operator and for the audit trail.
-/

namespace LeafSwitch

/-- The outcome of applying a block. -/
structure Report where
  /-- The directives of the block. -/
  lines : Int
  /-- The directives that were applied to an interface. -/
  applied : Int
  /-- The directives that had no effect for want of an interface or of a meaning. -/
  ignored : Int
  /-- The names of the interfaces touched, in the order of their first touch. -/
  changed : List String
  /-- The VLANs that are new on the device, in ascending order. -/
  created : List Int
  deriving DecidableEq, Repr

namespace Report

/-- Nothing was applied. -/
def noChange (r : Report) : Bool :=
  r.applied == 0

/-- The report in one line. -/
def summary (r : Report) : String :=
  if r.noChange then "No changes applied"
  else
    Text.join "; "
      ([toString r.applied ++ " directive(s) applied"] ++
        (if r.changed.isEmpty then [] else ["interfaces: " ++ Text.join ", " r.changed]) ++
        if r.created.isEmpty then []
        else ["new VLANs: " ++ Text.join ", " (r.created.map toString)])

end Report

end LeafSwitch
