import LeafSwitch.Proofs.Audit.Record
import LeafSwitch.Proofs.Session.Files
import LeafSwitch.Proofs.Session.Names
import LeafSwitch.Proofs.Session.Showable

/-!
# The blocks of a session

A session has applied some blocks for which there is someone to file them. What is to be on record
about each is told by the submission, by the report on it, and by the device at that moment.
-/

namespace LeafSwitch

/-- The time that the last reading of a clock showed. -/
def Site.Clock.last (c : Site.Clock) : Time.Instant :=
  c.readings (c.taken - 1)

/-- A block that has been applied, with someone to file it. -/
structure Applied where
  /-- The block, its source, and what was asked for. -/
  submission : Submission
  /-- The report on it. -/
  report : Report
  /-- The name of the device at that moment. -/
  hostname : String
  /-- The name to use for a device without one. -/
  fallback : Option String
  /-- When it was filed. -/
  time : Time.Instant
  deriving DecidableEq, Repr

namespace Applied

/-- The name that the device goes by on record. -/
def name (a : Applied) : String :=
  if a.hostname = "" then a.fallback.getD "" else a.hostname

/-- What kind of apply it was: one that was asked for in words, or not. -/
def operation (a : Applied) : String :=
  if a.submission.intent.getD "" = "" then "config_apply" else "intent_apply"

/-- What is to be on record about the block. -/
def record (a : Applied) : Audit.Record where
  timestamp := .str a.time.fullText
  hostname := .str a.name
  operation := .str a.operation
  source := .str a.submission.source
  lines := .int a.report.lines
  directivesApplied := .int a.report.applied
  interfacesChanged := .list (a.report.changed.map .str)
  vlansCreated := .list (a.report.created.map .int)
  block := .str (Text.cutTo 1000 a.submission.block)
  intent := (a.submission.intent.map Value.str).getD .null

/-- Whether a text is what is asked for; nothing is asked for by no text or an empty one. -/
def fits (wanted : Option String) (text : String) : Bool :=
  wanted.getD "" == "" || wanted == some text

/-- Whether the block is asked for by the name of the device and the kind of apply. -/
def isWanted (a : Applied) (hostname operation : Option String) : Bool :=
  fits hostname a.name && fits operation a.operation

/-- The filters of the trail ask for the records of the blocks that are asked for. -/
theorem passes_record (a : Applied) (hostname operation : Option String) :
    (Audit.passes hostname a.record.hostname && Audit.passes operation a.record.operation) =
      a.isWanted hostname operation := by
  have hfits : ∀ wanted text, Audit.passes wanted (.str text) = fits wanted text := by
    intro wanted text
    cases wanted with
    | none => rfl
    | some w =>
      have hempty : w.isEmpty = (w == "") := by
        rw [Bool.eq_iff_iff, String.isEmpty_iff, beq_iff_eq]
      have hsame : (Value.str text == Value.str w) = (some w == some text) := by
        rw [Bool.eq_iff_iff, beq_iff_eq, beq_iff_eq, Value.str.injEq, Option.some.injEq, eq_comm]
      rw [Audit.passes, hempty, hsame, fits, Option.getD_some]
  exact congrArg₂ _ (hfits hostname a.name) (hfits operation a.operation)

end Applied

namespace Session

/-- The block that an operation applies with someone to file it, if it does so. -/
def applied? (s : Session) : Operation → Option Applied
  | .block (some tracker) b =>
    match s.switch.applyBlock (some tracker) b with
    | .ok (report, after) =>
      some ⟨b, report, after.device.hostname, tracker.hostname, after.site.clock.last⟩
    | .error _ => none
  | _ => none

/-- The blocks that operations apply with someone to file them, in their order. -/
def applies (s : Session) : List Operation → List Applied
  | [] => []
  | o :: rest =>
    (s.applied? o).toList ++
      match s.operate o with
      | .ok t => t.applies rest
      | .error _ => []

end Session

/-! ### What can be read back -/

/-- What stands in a submission can be written down and read again: its texts are whole, and its
lines are no more than a number tells that can be written out. -/
structure Submission.IsReadable (s : Submission) : Prop where
  /-- The block is whole. -/
  block : Text.Whole s.block
  /-- The source is whole. -/
  source : Text.Whole s.source
  /-- What was asked for is whole. -/
  intent : ∀ text ∈ s.intent, Text.Whole text
  /-- The lines can be counted. -/
  lines : (filledLines s.block).length < Value.shownLimit

/-- An operation all of whose texts can be written down and read again. -/
def Operation.IsReadable : Operation → Prop
  | .line text => Text.Whole text
  | .block tracker b =>
    b.IsReadable ∧ ∀ t ∈ tracker, ∀ name ∈ t.hostname, Text.Whole name
  | .update u => u.HasWholeNames
  | .note _ => True
  | .sample _ => True

/-- Whether an operation applies a block with someone to file it. -/
def Operation.isFiled : Operation → Bool
  | .block tracker _ => tracker.isSome
  | _ => false

/-! ### Records are plain -/

/-- A number that is filled up with zeros is in ASCII. -/
theorem Time.Instant.ascii_padded (width n : Nat) : Text.Ascii (Time.Instant.padded width n) := by
  intro c hc
  rw [Time.Instant.padded, String.toList_ofList] at hc
  rcases List.mem_append.mp hc with hc | hc
  · rw [(List.mem_replicate.mp hc).2]
    decide
  · have hdigit : c.isDigit = true := Nat.isDigit_of_mem_toDigits (by decide) (by decide) hc
    have hle := (Char.isDigit_iff_toNat.mp hdigit).2
    exact Nat.lt_of_le_of_lt hle (by decide)

/-- The date and the time are in ASCII. -/
theorem Time.Instant.ascii_secondsText (t : Time.Instant) : Text.Ascii t.secondsText := by
  have hpadded := Time.Instant.ascii_padded
  have hdash : Text.Ascii "-" := by decide
  have hcolon : Text.Ascii ":" := by decide
  have hletter : Text.Ascii "T" := by decide
  exact ((((((((((hpadded _ _).append hdash).append (hpadded _ _)).append hdash).append
    (hpadded _ _)).append hletter).append (hpadded _ _)).append hcolon).append
    (hpadded _ _)).append hcolon).append (hpadded _ _)

/-- The time of a record is a whole text. -/
theorem Time.Instant.whole_fullText (t : Time.Instant) : Text.Whole t.fullText := by
  have hfraction : Text.Ascii
      (if t.timeOfDay % 1000000 = 0 then ""
      else "." ++ Time.Instant.padded 6 (t.timeOfDay % 1000000)) := by
    split
    · decide
    · exact Text.Ascii.append (by decide) (Time.Instant.ascii_padded _ _)
  have hzone : Text.Ascii "+00:00" := by decide
  exact ((t.ascii_secondsText.append hfraction).append hzone).whole

namespace Switch.Applies

variable {sw after : Switch} {block : List Directive} {t : Staging} {r : Report}

/-- No more lines are applied than there are. -/
theorem natAbs_applied_le (h : sw.Applies block t r after) : r.applied.natAbs ≤ block.length := by
  have hsum := h.lines_eq
  have happlied := h.applied_eq
  have hignored := h.ignored
  have hlines := h.lines
  omega

end Switch.Applies

/-- The fields of the record of a block are of the declared kinds where the submission can be read
back and the report on it tells whole names and numbers that can be written out. -/
theorem Applied.record_isDeclared {a : Applied} (hsubmission : a.submission.IsReadable)
    (hname : Text.Whole a.name) (hlines : a.report.lines.natAbs < Value.shownLimit)
    (happlied : a.report.applied.natAbs < Value.shownLimit)
    (hchanged : ∀ n ∈ a.report.changed, Text.Whole n)
    (hcreated : ∀ v ∈ a.report.created, v.natAbs < Value.shownLimit) : a.record.IsDeclared where
  timestamp := ⟨_, a.time.whole_fullText, rfl⟩
  hostname := ⟨_, hname, rfl⟩
  operation := by
    have hkinds : Text.Ascii "config_apply" ∧ Text.Ascii "intent_apply" := by decide
    refine ⟨a.operation, ?_, rfl⟩
    rw [operation]
    split
    · exact hkinds.1.whole
    · exact hkinds.2.whole
  source := ⟨_, hsubmission.source, rfl⟩
  lines := ⟨_, hlines, rfl⟩
  directivesApplied := ⟨_, happlied, rfl⟩
  interfacesChanged := by
    refine ⟨_, fun v hv => ?_, rfl⟩
    obtain ⟨n, hn, rfl⟩ := List.mem_map.mp hv
    exact ⟨n, hchanged n hn, rfl⟩
  vlansCreated := by
    refine ⟨_, fun v hv => ?_, rfl⟩
    obtain ⟨n, hn, rfl⟩ := List.mem_map.mp hv
    exact ⟨n, hcreated n hn, rfl⟩
  block := ⟨_, hsubmission.block.cutTo 1000, rfl⟩
  intent := by
    rw [record]
    cases hgiven : a.submission.intent with
    | none => exact Or.inl rfl
    | some text => exact Or.inr ⟨text, hsubmission.intent text hgiven, rfl⟩

end LeafSwitch
