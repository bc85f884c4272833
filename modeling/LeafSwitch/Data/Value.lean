import LeafSwitch.Number.Binary64

/-!
# Data values

The values that settings, seeds and replies are made of, before anything is known about their shape.
Equality of values is decided, entry by entry and in order.
-/

namespace LeafSwitch

open Number (Binary64)

/-- A value read from a document. -/
inductive Value where
  /-- Nothing. -/
  | null
  /-- A truth value. -/
  | bool (b : Bool)
  /-- A whole number of any size. -/
  | int (n : Int)
  /-- A double precision number. -/
  | float (x : Binary64)
  /-- A text. -/
  | str (s : String)
  /-- A sequence. -/
  | list (items : List Value)
  /-- A mapping; each key stands once, in the order in which keys were first given. -/
  | map (entries : List (Value × Value))
  /-- Something of a further kind, of which nothing matters but how it is shown, its text, and the
  identity by which it is a key. -/
  | other (kindName shownText plainText identity : String)
  deriving Repr, Inhabited

namespace Value

mutual

/-- Whether two values are the same. -/
def same : Value → Value → Bool
  | .null, .null => true
  | .bool a, .bool b => a == b
  | .int a, .int b => a == b
  | .float a, .float b => a == b
  | .str a, .str b => a == b
  | .list a, .list b => sameItems a b
  | .map a, .map b => sameEntries a b
  | .other k s t i, .other l u v j => k == l && s == u && t == v && i == j
  | _, _ => false

/-- Whether two sequences hold the same values. -/
def sameItems : List Value → List Value → Bool
  | [], [] => true
  | v :: vs, w :: ws => same v w && sameItems vs ws
  | _, _ => false

/-- Whether two mappings hold the same entries in the same order. -/
def sameEntries : List (Value × Value) → List (Value × Value) → Bool
  | [], [] => true
  | (k, v) :: vs, (l, w) :: ws => same k l && same v w && sameEntries vs ws
  | _, _ => false

end

mutual

/-- The test for sameness decides equality. -/
theorem same_iff : ∀ v w : Value, same v w = true ↔ v = w
  | .list a, w => by cases w <;> simp [same, sameItems_iff a]
  | .map a, w => by cases w <;> simp [same, sameEntries_iff a]
  | .null, w => by cases w <;> simp [same]
  | .bool _, w => by cases w <;> simp [same]
  | .int _, w => by cases w <;> simp [same]
  | .float _, w => by cases w <;> simp [same]
  | .str _, w => by cases w <;> simp [same]
  | .other _ _ _ _, w => by cases w <;> simp [same, and_assoc]

theorem sameItems_iff : ∀ a b : List Value, sameItems a b = true ↔ a = b
  | [], b => by cases b <;> simp [sameItems]
  | _ :: _, [] => by simp [sameItems]
  | v :: vs, w :: ws => by simp [sameItems, same_iff v w, sameItems_iff vs ws]

theorem sameEntries_iff : ∀ a b : List (Value × Value), sameEntries a b = true ↔ a = b
  | [], b => by cases b <;> simp [sameEntries]
  | _ :: _, [] => by simp [sameEntries]
  | (k, v) :: vs, (l, w) :: ws => by
    simp [sameEntries, same_iff k l, same_iff v w, sameEntries_iff vs ws]

end

instance : DecidableEq Value := fun v w => decidable_of_iff _ (same_iff v w)

/-- The name of a value's kind. -/
def kind : Value → String
  | .null => "NoneType"
  | .bool _ => "bool"
  | .int _ => "int"
  | .float _ => "float"
  | .str _ => "str"
  | .list _ => "list"
  | .map _ => "dict"
  | .other kindName _ _ _ => kindName

/-- Whether a value is a text. -/
def isText : Value → Bool
  | .str _ => true
  | _ => false

/-- Nothing, false, zero and whatever is empty count as false. -/
def truthy : Value → Bool
  | .null => false
  | .bool b => b
  | .int n => n != 0
  | .float x => !x.isZero
  | .str s => !s.isEmpty
  | .list items => !items.isEmpty
  | .map entries => !entries.isEmpty
  | .other _ _ _ _ => true

end Value

end LeafSwitch
