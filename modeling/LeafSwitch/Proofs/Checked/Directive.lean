import LeafSwitch.Block.Directive
import LeafSwitch.Proofs.Block.Lines
import LeafSwitch.Proofs.Checked.Fault

/-!
# Reading blocks in checked steps

A line of a block is noted on a card, which has places for all that some line may carry, and leaves
empty those that its own line does not use. Reading in checked steps agrees with reading: a first
word is asked for on filled lines alone, and a card for a VLAN has one, which is not negative.
-/

namespace LeafSwitch

/-- The kind of a line. -/
inductive Kind where
  /-- It turns to an interface. -/
  | enter
  /-- It takes the interface out of service. -/
  | shutdown
  /-- It brings the interface into service. -/
  | noShutdown
  /-- It describes the interface. -/
  | describe
  /-- It puts the interface into a VLAN. -/
  | accessVlan
  /-- It turns away from the interface. -/
  | exit
  /-- It is a remark. -/
  | comment
  /-- It is not known. -/
  | ignored
  deriving DecidableEq, Repr

/-- The kind of an action. -/
def Action.kind : Action → Kind
  | enter _ => .enter
  | shutdown => .shutdown
  | noShutdown => .noShutdown
  | describe _ => .describe
  | accessVlan _ => .accessVlan
  | exit => .exit
  | comment => .comment
  | ignored => .ignored

/-- A line of a block with all that it may carry. -/
structure Card where
  /-- The kind of the line. -/
  kind : Kind
  /-- The line. -/
  line : String
  /-- The number of the line, from 1 within a block. -/
  number : Int
  /-- A reference or a text, if the line carries one. -/
  argument : Option String
  /-- A VLAN, if the line carries one. -/
  vlan : Option Int
  deriving DecidableEq, Repr

/-- The card of a directive. -/
def Directive.card (x : Directive) : Card :=
  ⟨x.action.kind, x.line, x.number, x.action.argument?, x.action.vlan?.map Int.ofNat⟩

namespace Checked

/-- The VLAN that a word names; what names none gives way to the default. -/
def vlanOfWord (word : String) : Int :=
  match Number.readInteger word with
  | .ok n => if n < 0 then defaultVlan else n
  | .error _ => defaultVlan

/-- A card for a line. -/
def noted (line : List Char) (number : Int) (kind : Kind) (argument : Option String)
    (vlan : Option Int) : Card :=
  ⟨kind, String.ofList line, number, argument, vlan⟩

/-- The card of a line with given words, of which the first is not `interface`. -/
def readPlain (line : List Char) (number : Int) (words : List (List Char)) : Except Fault Card :=
  if line = "shutdown".toList then .ok (noted line number .shutdown none none)
  else if line = "no shutdown".toList then .ok (noted line number .noShutdown none none)
  else if "description".toList.isPrefixOf line then
    .ok (noted line number .describe (some (String.ofList (behindSpace line))) none)
  else if "switchport access vlan".toList.isPrefixOf line then do
    let word ← last words
    return noted line number .accessVlan none (some (vlanOfWord (String.ofList word)))
  else if line = "exit".toList then .ok (noted line number .exit none none)
  else .ok (noted line number .ignored none none)

/-- The card of a line without blanks at its ends. -/
def readLine (line : List Char) (number : Int) : Except Fault Card :=
  if line.head? = some '!' then .ok (noted line number .comment none none)
  else do
    let words := Text.words line
    let first ← item words 0
    if first = "interface".toList then
      if words.length < 2 then .ok (noted line number .ignored none none)
      else do
        let ref ← item words 1
        return noted line number .enter (some (String.ofList ref)) none
    else readPlain line number words

/-- The cards of lines, of which the first has a number; blank lines are passed over. -/
def readLines (number : Int) : List (List Char) → Except Fault (List Card)
  | [] => .ok []
  | raw :: rest =>
    let line := Text.trim raw
    if line.isEmpty then readLines (number + 1) rest
    else do
      let card ← readLine line number
      let more ← readLines (number + 1) rest
      return card :: more

/-- The cards of a block, where no block is an empty one. -/
def readBlock (block : Option String) : Except Fault (List Card) :=
  readLines 1 (Text.pieces (· == '\n') (block.getD "").toList)

/-- The VLAN of a word is the one that a directive names. -/
theorem vlanOfWord_eq (word : String) :
    vlanOfWord word = Int.ofNat (LeafSwitch.vlanOfWord word) := by
  rw [vlanOfWord, LeafSwitch.vlanOfWord]
  cases Number.readInteger word with
  | error e => rfl
  | ok n =>
    dsimp only
    rw [vlanOfWhole]
    by_cases hn : n < 0
    · rw [if_pos hn, if_pos hn]
      rfl
    · rw [if_neg hn, if_neg hn]
      exact (Int.toNat_of_nonneg (Int.not_lt.mp hn)).symm

/-- The card of a plain line is that of its directive. -/
theorem readPlain_eq (line : List Char) (number : Int) (first : List Char)
    (rest : List (List Char)) :
    readPlain line number (first :: rest) = .ok
      (Directive.card
        ⟨plainAction line (rest.getLast?.getD first), String.ofList line, number⟩) := by
  have hlast : last (first :: rest) = .ok (rest.getLast?.getD first) := by
    rw [last, List.getLast?_cons]
  rw [readPlain, plainAction, hlast]
  split_ifs
  · rfl
  · rfl
  · rfl
  · change Except.ok _ = _
    rw [vlanOfWord_eq]
    rfl
  · rfl
  · rfl

/-- The card of a line is that of its directive, and a line that is none has no first word. -/
theorem readLine_eq (line : List Char) (number : Int) :
    readLine line number =
      ((Directive.ofLine line number).map Directive.card).mapError fun _ => .noItem 0 := by
  rw [readLine, Directive.ofLine, lineAction]
  by_cases hremark : line.head? = some '!'
  · rw [if_pos hremark, if_pos hremark]
    rfl
  · rw [if_neg hremark, if_neg hremark]
    cases hwords : Text.words line with
    | nil => rfl
    | cons first rest =>
      -- Both sides ask whether the first word is `interface`.
      change (if first = "interface".toList then _ else _) =
        Except.mapError _ (Except.map _ (Except.map _
          (if first = "interface".toList then _ else _)))
      by_cases hfirst : first = "interface".toList
      · rw [if_pos hfirst, if_pos hfirst]
        cases rest with
        | nil => rfl
        | cons ref more => rfl
      · rw [if_neg hfirst, if_neg hfirst]
        exact readPlain_eq line number first rest

/-- The cards of lines are those of their directives. -/
theorem readLines_eq {number : Int} {lines : List (List Char)} {xs : List Directive}
    (h : directivesFrom number lines = .ok xs) :
    readLines number lines = .ok (xs.map Directive.card) := by
  induction lines generalizing number xs with
  | nil =>
    obtain rfl : [] = xs := Except.ok.inj h
    rfl
  | cons raw rest ih =>
    rw [directivesFrom] at h
    rw [readLines]
    by_cases hblank : (Text.trim raw).isEmpty = true
    · rw [if_pos hblank] at h ⊢
      exact ih h
    · rw [if_neg hblank] at h ⊢
      obtain ⟨x, hread, hlater⟩ := bind_eq_ok_iff.mp h
      obtain ⟨more, hmore, hall⟩ := bind_eq_ok_iff.mp hlater
      obtain rfl := Except.ok.inj hall
      rw [readLine_eq, hread, ih hmore]
      rfl

/-- Every block is read in checked steps: each of its filled lines has a first word and gets a card,
and a card for a VLAN has one, which is not negative. -/
theorem exists_readBlock (block : Option String) :
    ∃ xs, directivesOf (block.getD "") = .ok xs ∧
      readBlock block = .ok (xs.map Directive.card) ∧
      (∀ line ∈ blockLines (block.getD ""), Text.words line ≠ []) ∧
      xs.map (·.line) = (blockLines (block.getD "")).map String.ofList := by
  obtain ⟨xs, hxs, _⟩ := exists_directivesOf (block.getD "")
  refine ⟨xs, hxs, readLines_eq hxs, ?_, (directivesFrom_spec hxs).1⟩
  intro line hline
  obtain ⟨hmem, hfilled⟩ := List.mem_filter.mp hline
  obtain ⟨raw, _, rfl⟩ := List.mem_map.mp hmem
  apply Text.words_trim_ne_nil
  intro hnil
  rw [hnil] at hfilled
  contradiction

end Checked

end LeafSwitch
