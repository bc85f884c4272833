import LeafSwitch.Audit.Record
import LeafSwitch.Site.State
import LeafSwitch.Text.Lines

/-!
# The audit trail

Records go to the audit file once it is set up, one line each, and to the journal as long as it is
not. The trail is read newest record first; lines that hold no record are passed over.
-/

namespace LeafSwitch

namespace Audit

/-- The directory of the audit file where nothing else is said. -/
def defaultDirectory : String := "~/.stratus-sim"

/-- The name of the audit file. -/
def fileName : String := "audit.log"

/-- The characters of a block that a record keeps. -/
def blockLimit : Nat := 1000

/-- What is filed about an applied block. -/
structure Filing where
  /-- What kind of apply it was. -/
  operation : String
  /-- Where the block came from. -/
  source : String
  /-- The directives of the block. -/
  lines : Int
  /-- The directives that were applied. -/
  applied : Int
  /-- The interfaces touched. -/
  changed : List String
  /-- The VLANs that were new. -/
  created : List Int
  /-- The block. -/
  block : String
  /-- What the operator asked for, if anything. -/
  intent : Option String
  /-- The device, where it is known. -/
  hostname : Option String
  deriving DecidableEq, Repr

/-- The record of a filing; a name that is missing or empty gives way to `fallback`. -/
def Filing.record (f : Filing) (fallback : Option String) (time : Time.Instant) : Record :=
  { timestamp := .str time.fullText
    hostname := .str ((f.hostname.filter (· != "")).getD (fallback.getD ""))
    operation := .str f.operation
    source := .str f.source
    lines := .int f.lines
    directivesApplied := .int f.applied
    interfacesChanged := .list (f.changed.map .str)
    vlansCreated := .list (f.created.map .int)
    block := .str (Text.cutTo blockLimit f.block)
    intent := (f.intent.map Value.str).getD .null }

/-- A filter lets everything pass if it is missing or empty. -/
def passes (filter : Option String) (v : Value) : Bool :=
  match filter with
  | none => true
  | some wanted => wanted.isEmpty || v == .str wanted

/-- Why the trail cannot be read. -/
inductive TrailError where
  /-- The file cannot be read. -/
  | file (cause : Site.FileError)
  /-- A line of the file holds JSON that goes beyond a limit. -/
  | json (cause : Json.ReadError)
  deriving DecidableEq, Repr

/-- The wording of a failure. -/
def TrailError.message : TrailError → String
  | .file cause => cause.message
  | .json cause => cause.message

/-- The records on lines of an audit file, in order, where `room` tells how deep sequences and
mappings may lie. -/
def recordsOn (room : Nat) : List (List Char) → Except TrailError (List Record)
  | [] => .ok []
  | line :: rest =>
    let text := Text.trim line
    if text.isEmpty then recordsOn room rest
    else
      match Record.ofJson room (String.ofList text) with
      | .ok r => (recordsOn room rest).map (r :: ·)
      | .error (.json .malformed) => recordsOn room rest
      | .error (.json cause) => .error (.json cause)
      | .error _ => recordsOn room rest

/-- The last `limit` items of a list; none are dropped for a limit of zero, and a negative limit
drops as many from the front. -/
def lastOf {α : Type} (limit : Int) (items : List α) : List α :=
  if limit > 0 then items.drop (items.length - limit.toNat) else items.drop (-limit).toNat

end Audit

namespace Site

/-- The directory of the audit file: a given one, or the one the environment names. -/
def auditDirectory (s : Site) (directory : Option String) : String :=
  s.expanded (directory.getD ((s.fromEnv? "STRATUS_AUDIT_DIR").getD Audit.defaultDirectory))

/-- Set up the audit file in a directory, which is made if need be, and tell its path. -/
def openAudit (s : Site) (directory : Option String) : Except FileError (String × Site) := do
  let directory := Path.ofText (s.auditDirectory directory)
  let path := (directory.child Audit.fileName).text
  let files ← (← s.files.ensureDirectories directory).append path ""
  return (path, { s with auditFile := some path, files })

/-- Write a record to the audit file, or to the journal while there is none. -/
def fileRecord (s : Site) (r : Audit.Record) : Site :=
  match s.auditFile with
  | some path =>
    { s with files := (s.files.append path (r.toJson ++ "\n")).toOption.getD s.files }
  | none => s.report (.info "stratus_sim.audit" r.toJson)

/-- File what is known about an applied block; the record takes a reading of the clock. -/
def file (s : Site) (fallback : Option String) (f : Audit.Filing) : Audit.Record × Site :=
  let r := f.record fallback s.clock.now
  (r, { s with clock := s.clock.advanced }.fileRecord r)

/-- The last records of an audit file that pass the filters, newest first; a file that is not there
holds none. -/
def recentChanges (s : Site) (path hostname operation : Option String) (limit : Int) :
    Except Audit.TrailError (List Audit.Record) :=
  let path := path.getD (Path.joined (s.auditDirectory none) Audit.fileName)
  if !s.files.holds path then .ok []
  else
    match s.files.read path with
    | .error e => .error (.file e)
    | .ok text => do
      let lines := Text.pieces (· == '\n') (Text.unifyNewlines text.toList)
      let records ← Audit.recordsOn s.nesting.json lines
      let wanted := records.filter fun r =>
        Audit.passes hostname r.hostname && Audit.passes operation r.operation
      return (Audit.lastOf limit wanted).reverse

end Site

end LeafSwitch
