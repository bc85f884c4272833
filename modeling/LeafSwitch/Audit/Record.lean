import LeafSwitch.Json.Printer
import LeafSwitch.Json.Reader

/-!
# Audit records

One record for each applied block, written as one line of JSON. What is read back may hold any
values, as long as no field is unknown and none that is required is missing.
-/

namespace LeafSwitch.Audit

/-- A record of the audit trail. -/
structure Record where
  /-- When the block was applied. -/
  timestamp : Value
  /-- The device it was applied to. -/
  hostname : Value
  /-- What kind of apply it was. -/
  operation : Value
  /-- Where the block came from. -/
  source : Value
  /-- The directives of the block. -/
  lines : Value
  /-- The directives that were applied. -/
  directivesApplied : Value
  /-- The interfaces touched. -/
  interfacesChanged : Value
  /-- The VLANs that were new. -/
  vlansCreated : Value
  /-- The block, cut off after some length. -/
  block : Value
  /-- What the operator asked for, if anything. -/
  intent : Value
  deriving DecidableEq, Repr

namespace Record

/-- The fields of a record under their names, in order. -/
def fields (r : Record) : List (String × Value) :=
  [("timestamp", r.timestamp), ("hostname", r.hostname), ("operation", r.operation),
    ("source", r.source), ("lines", r.lines), ("directives_applied", r.directivesApplied),
    ("interfaces_changed", r.interfacesChanged), ("vlans_created", r.vlansCreated),
    ("block", r.block), ("intent", r.intent)]

/-- A record as a line of JSON. -/
def toJson (r : Record) : String :=
  Json.render (.map (r.fields.map fun (name, v) => (.str name, v)))

/-- The names of the fields that every record has. -/
def requiredFields : List String :=
  ["timestamp", "hostname", "operation", "source", "lines", "directives_applied"]

/-- The names of the fields that may be left out. -/
def optionalFields : List String :=
  ["interfaces_changed", "vlans_created", "block", "intent"]

end Record

/-- Why a text is not read as a record. -/
inductive ReadError where
  /-- The text is not JSON. -/
  | json (cause : Json.ReadError)
  /-- The text holds something that is not a mapping. -/
  | notMapping (kind : String)
  /-- The name of a field is no text. -/
  | namelessField
  /-- A record has no such field. -/
  | unknownField (name : String)
  /-- The field is taken by the record itself. -/
  | reservedField (name : String)
  /-- Required fields are missing. -/
  | missingFields (names : List String)
  deriving DecidableEq, Repr

/-- Names in quotes, the last one set off. -/
def listed : List String → String
  | [] => ""
  | [a] => "'" ++ a ++ "'"
  | [a, b] => "'" ++ a ++ "' and '" ++ b ++ "'"
  | names =>
    Text.join ", " (names.dropLast.map fun n => "'" ++ n ++ "'") ++ ", and '" ++
      names.getLast?.getD "" ++ "'"

/-- The wording of a failure. -/
def ReadError.message : ReadError → String
  | .json cause => cause.message
  | .notMapping kind =>
    "stratus_sim.utils.audit_log.ChangeRecord() argument after ** must be a mapping, not " ++ kind
  | .namelessField => "keywords must be strings"
  | .unknownField name =>
    "ChangeRecord.__init__() got an unexpected keyword argument '" ++ name ++ "'"
  | .reservedField name =>
    "ChangeRecord.__init__() got multiple values for argument '" ++ name ++ "'"
  | .missingFields names =>
    "ChangeRecord.__init__() missing " ++ toString names.length ++ " required positional " ++
      (if names.length = 1 then "argument" else "arguments") ++ ": " ++ listed names

namespace Record

/-- Whether a field is one that a record has. -/
def isKnown : Value → Bool
  | .str name => (requiredFields ++ optionalFields).contains name
  | _ => false

/-- What is wrong with a field that a record does not have. -/
def unknown : Value → ReadError
  | .str name => if name = "self" then .reservedField name else .unknownField name
  | _ => .namelessField

/-- The record with given fields; the first field that it cannot have is reported before any that
is missing, and a name that is no text before all others. -/
def ofFields (entries : List (Value × Value)) : Except ReadError Record :=
  let names := entries.map (·.1)
  match (names.find? (!·.isText)).or (names.find? (!isKnown ·)) with
  | some name => .error (unknown name)
  | none =>
    let missing := requiredFields.filter fun name => (Value.entry? entries name).isNone
    if !missing.isEmpty then .error (.missingFields missing)
    else
      let field (name : String) (absent : Value) := (Value.entry? entries name).getD absent
      .ok
        { timestamp := field "timestamp" .null
          hostname := field "hostname" .null
          operation := field "operation" .null
          source := field "source" .null
          lines := field "lines" .null
          directivesApplied := field "directives_applied" .null
          interfacesChanged := field "interfaces_changed" (.list [])
          vlansCreated := field "vlans_created" (.list [])
          block := field "block" (.str "")
          intent := field "intent" .null }

/-- Read a record from JSON, where `room` tells how deep sequences and mappings may lie. -/
def ofJson (room : Nat) (text : String) : Except ReadError Record :=
  match Json.read room text with
  | .error e => .error (.json e)
  | .ok (.map entries) => ofFields entries
  | .ok v => .error (.notMapping v.kind)

end Record

end LeafSwitch.Audit
