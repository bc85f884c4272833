import LeafSwitch.Block.Directive
import LeafSwitch.Proofs.Text.Words
import Mathlib.Tactic.SplitIfs

/-!
# Reading blocks

Every line that is not blank has a word, so it is a directive. Reading a block never fails, and it
gives one directive for each such line.
-/

namespace LeafSwitch

/-- The lines of a block that hold more than blanks. -/
def filledLines (block : String) : List (List Char) :=
  (block.toList.splitOn '\n').filter fun line => !(Text.trim line).isEmpty

/-- A line with a word asks for something. -/
theorem exists_lineAction {line : List Char} (h : Text.words line ≠ []) :
    ∃ action, lineAction line = .ok action := by
  obtain ⟨first, rest, hw⟩ := List.exists_cons_of_ne_nil h
  rw [lineAction, hw]
  by_cases hremark : line.head? = some '!'
  · exact ⟨.comment, if_pos hremark⟩
  · rw [if_neg hremark]
    dsimp only
    by_cases hfirst : first = "interface".toList
    · rw [if_pos hfirst]
      cases rest with
      | nil => exact ⟨.ignored, rfl⟩
      | cons ref _ => exact ⟨.enter (String.ofList ref), rfl⟩
    · exact ⟨_, if_neg hfirst⟩

/-- A line is a remark, or turns to an interface, or asks for what its plain words do, or for
nothing that is known. -/
theorem lineAction_cases {line : List Char} {action : Action} (h : lineAction line = .ok action) :
    action = .comment ∨ action = .ignored ∨ (∃ ref, action = .enter ref) ∨
      ∃ word, action = plainAction line word := by
  rw [lineAction] at h
  split_ifs at h
  · exact Or.inl (Except.ok.inj h).symm
  split at h
  · cases h
  · split_ifs at h
    · split at h
      · exact Or.inr (Or.inl (Except.ok.inj h).symm)
      · exact Or.inr (Or.inr (Or.inl ⟨_, (Except.ok.inj h).symm⟩))
    · exact Or.inr (Or.inr (Or.inr ⟨_, (Except.ok.inj h).symm⟩))

/-- Lines are read one directive for each that holds more than blanks. -/
theorem exists_directivesFrom (number : Int) (lines : List (List Char)) :
    ∃ directives, directivesFrom number lines = .ok directives ∧
      directives.length = (lines.filter fun line => !(Text.trim line).isEmpty).length := by
  induction lines generalizing number with
  | nil => exact ⟨[], rfl, rfl⟩
  | cons raw rest ih =>
    obtain ⟨more, hmore, hlength⟩ := ih (number + 1)
    rw [directivesFrom, List.filter_cons]
    by_cases hblank : (Text.trim raw).isEmpty = true
    · simp only [hblank, ite_true, Bool.not_true, Bool.false_eq_true, ite_false]
      exact ⟨more, hmore, hlength⟩
    · have hne : Text.trim raw ≠ [] := by simpa using hblank
      obtain ⟨action, haction⟩ := exists_lineAction (Text.words_trim_ne_nil hne)
      rw [Bool.not_eq_true] at hblank
      simp only [hblank, Bool.false_eq_true, ite_false, Bool.not_false, ite_true,
        Directive.ofLine, haction, hmore]
      exact ⟨_, rfl, congrArg (· + 1) hlength⟩

/-- What is read of some lines is told by the first of them: a blank one has no directive. -/
theorem directivesFrom_cases {number : Int} {raw : List Char} {rest : List (List Char)}
    {xs : List Directive} (h : directivesFrom number (raw :: rest) = .ok xs) :
    Text.trim raw = [] ∧ directivesFrom (number + 1) rest = .ok xs ∨
      Text.trim raw ≠ [] ∧ ∃ action more, lineAction (Text.trim raw) = .ok action ∧
        directivesFrom (number + 1) rest = .ok more ∧
        xs = ⟨action, String.ofList (Text.trim raw), number⟩ :: more := by
  obtain ⟨more, hmore, _⟩ := exists_directivesFrom (number + 1) rest
  rw [directivesFrom] at h
  by_cases hblank : (Text.trim raw).isEmpty = true
  · simp only [hblank, ite_true] at h
    exact Or.inl ⟨List.isEmpty_iff.mp hblank, h⟩
  · rw [Bool.not_eq_true] at hblank
    refine Or.inr ⟨List.isEmpty_eq_false_iff.mp hblank, ?_⟩
    simp only [hblank, Bool.false_eq_true, ite_false, Directive.ofLine, hmore] at h
    cases haction : lineAction (Text.trim raw) with
    | error e =>
      rw [haction] at h
      cases h
    | ok action =>
      rw [haction] at h
      exact ⟨action, more, rfl, hmore, (Except.ok.inj h).symm⟩

/-- A block is read, one directive for each of its lines that holds more than blanks. -/
theorem exists_directivesOf (block : String) :
    ∃ directives, directivesOf block = .ok directives ∧
      directives.length = (filledLines block).length := by
  rw [directivesOf, filledLines, Text.pieces_lineFeed]
  exact exists_directivesFrom 1 _

end LeafSwitch
