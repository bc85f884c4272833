import LeafSwitch.Data.Entries
import LeafSwitch.Yaml.Plain

/-!
# Document trees

A document is a tree of scalars, sequences and mappings. Its value takes plain text for what it
stands for and quoted text for itself; only scalars can be keys, and a key given twice has its last
value. Under the key `<<` stand mappings whose entries come before those of the mapping itself.
Where several nodes have no value, the one nearest to the root counts, and of those equally near the
first.
-/

namespace LeafSwitch.Yaml

/-- A node of a document. -/
inductive Node where
  /-- Plain text. -/
  | plain (text : String)
  /-- Text in quotes. -/
  | quoted (text : String)
  /-- A sequence. -/
  | sequence (items : List Node)
  /-- A mapping. -/
  | mapping (entries : List (Node × Node))
  deriving Repr, Inhabited

namespace Node

/-- The node that is left out where a value is missing. -/
def missing : Node := .plain ""

/-- The value of a key; the plain equals sign stands for itself there. -/
def keyValue : Node → Except LoadError Value
  | .plain text => if text = "=" then .ok (.str text) else plainValue text
  | .quoted text => .ok (.str text)
  | _ => .error .malformed

/-- Whether the entries of mappings stand under a key. -/
def isMerge : Node → Bool
  | .plain text => text == "<<"
  | _ => false

mutual

/-- The entries of a mapping with those that it takes from mappings under `<<`, which come first. -/
def merged (entries : List (Node × Node)) : Except LoadError (List (Node × Node)) := do
  return (← taken entries) ++ entries.filter fun (k, _) => !k.isMerge

/-- The entries that a mapping takes from mappings under `<<`. -/
def taken : List (Node × Node) → Except LoadError (List (Node × Node))
  | [] => .ok []
  | (k, v) :: rest => do
    let own ← if k.isMerge then entriesIn v else pure []
    return own ++ (← taken rest)

/-- The entries of a mapping, or of the mappings in a sequence, from the last. -/
def entriesIn : Node → Except LoadError (List (Node × Node))
  | .mapping entries => merged entries
  | .sequence items => entriesInAll items
  | _ => .error .malformed

/-- The entries of mappings, from the last. -/
def entriesInAll : List Node → Except LoadError (List (Node × Node))
  | [] => .ok []
  | .mapping entries :: rest => do
    let own ← merged entries
    return (← entriesInAll rest) ++ own
  | _ => .error .malformed

end

/-- Check what stands in a place where any node may: plain text must have a value, and sequences and
mappings are kept for later. -/
def checkScalar : Node → Except LoadError (List Node)
  | .plain text => (plainValue text).map fun _ => []
  | .quoted _ => .ok []
  | n => .ok [n]

/-- Check the scalars that stand in a node itself, and tell the sequences and mappings in it. -/
def checkLevel : Node → Except LoadError (List Node)
  | .sequence items => (items.mapM checkScalar).map List.flatten
  | .mapping entries => do
    let inner ← (← merged entries).mapM fun (k, v) => do
      let _ ← k.keyValue
      v.checkScalar
    return inner.flatten
  | n => n.checkScalar

/-- Check nodes level by level, as many levels as given. -/
def checkLevels : Nat → List Node → Except LoadError Unit
  | 0, _ => .ok ()
  | levels + 1, nodes =>
    if nodes.isEmpty then .ok ()
    else do checkLevels levels (← nodes.mapM checkLevel).flatten

/-- The value of a node, in which as many levels lie as given. -/
def valueWithin : Nat → Node → Except LoadError Value
  | _, .plain text => plainValue text
  | _, .quoted text => .ok (.str text)
  | 0, _ => .error .tooDeep
  | levels + 1, .sequence items => (items.mapM (valueWithin levels)).map .list
  | levels + 1, .mapping entries => do
    let built ← (← merged entries).mapM fun (k, v) => do
      return (← k.keyValue, ← valueWithin levels v)
    return Value.mapOf built

/-- The value of a node, in which as many levels lie as given. -/
def value (levels : Nat) (n : Node) : Except LoadError Value := do
  checkLevels (levels + 1) [n]
  n.valueWithin levels

end Node

end LeafSwitch.Yaml
