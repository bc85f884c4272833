import LeafSwitch.Data.Value

/-!
# Entries of mappings

Two keys are one if they compare equal, numbers of all kinds by their value, and things of a further
kind by their identity. Giving a key again replaces its value and leaves its place.
-/

namespace LeafSwitch.Value

open Number (Binary64)

/-- The number a truth value or a whole number stands for. -/
def whole? : Value → Option Int
  | .bool b => some (if b then 1 else 0)
  | .int n => some n
  | _ => none

/-- Whether a double has exactly the value of a whole number. -/
def isWhole (x : Binary64) (n : Int) : Bool :=
  x.truncate? == some n && (Binary64.ofInt n == x || x.isZero)

/-- Whether two keys are one; what is not a number is one key. -/
def sameKey : Value → Value → Bool
  | .float x, .float y => x == y || (x.isZero && y.isZero)
  | .float x, v => (v.whole?.map (isWhole x)).getD false
  | v, .float x => (v.whole?.map (isWhole x)).getD false
  | .other k _ _ i, .other l _ _ j => k == l && i == j
  | v, w =>
    match v.whole?, w.whole? with
    | some n, some m => n == m
    | _, _ => v == w

/-- Put a key into the entries of a mapping; a key that is there already keeps its place. -/
def putEntry (entries : List (Value × Value)) (key value : Value) : List (Value × Value) :=
  if entries.any fun (k, _) => k.sameKey key then
    entries.map fun (k, v) => if k.sameKey key then (k, value) else (k, v)
  else entries ++ [(key, value)]

/-- The mapping that entries build up one after another. -/
def mapOf (entries : List (Value × Value)) : Value :=
  .map (entries.foldl (fun built (k, v) => putEntry built k v) [])

/-- The value under a text key of a mapping's entries. -/
def entry? (entries : List (Value × Value)) (name : String) : Option Value :=
  (entries.find? fun (k, _) => k == .str name).map (·.2)

end LeafSwitch.Value
