import LeafSwitch.Proofs.Console.Event
import Mathlib.Tactic.SplitIfs

/-!
# Lines at the console

The console sees to some lines itself and leaves the others to the switch. Which of the two it is,
and what the console does, is told by the kind of the line, whatever the state of the console.
-/

namespace LeafSwitch.Console

/-- What a line is to the console. -/
inductive LineKind where
  /-- Nothing. -/
  | blank
  /-- The operator leaves. -/
  | leaving
  /-- The screen is cleared. -/
  | clearing
  /-- A block is wanted. -/
  | request (intent : String)
  /-- An analysis of the log is wanted. -/
  | analysis
  /-- The line is for the switch. -/
  | command
  deriving DecidableEq, Repr

/-- The kind of a line. -/
def kindOf (text : String) : LineKind :=
  let line := Text.trimmed text
  if line.isEmpty then .blank
  else if line = "exit" || line = "quit" then .leaving
  else if line = "clear" then .clearing
  else if "ai ".toList.isPrefixOf line.toList then
    .request (Text.trimmed (String.ofList (line.toList.drop 3)))
  else if line = "analyze" then .analysis
  else .command

/-- The line of an event, if it is one. -/
def Event.line? : Event → Option String
  | .line text => some text
  | .turn _ | .answer _ _ => none

/-- A line that is left to the switch changes the switch and what is written. It is followed by
others if the switch has an answer, and fails otherwise. -/
theorem command_eq (c : Console) (line : String) :
    c.command line =
      ((c.switch.interpret line).1.map fun _ => true,
        { c with
          switch := (c.switch.interpret line).2
          output := (c.command line).2.output }) := by
  rw [command]
  obtain ⟨answer, switch⟩ := c.switch.interpret line
  cases answer with
  | error cause => rfl
  | ok text =>
    dsimp only
    split <;> rfl

/-- The kind of a line decides how it is handled. -/
theorem handle_eq (c : Console) (text : String) :
    c.handle text =
      match kindOf text with
      | .blank => (.ok true, c)
      | .leaving => (.ok false, c)
      | .clearing => (.ok true, c.put clearing)
      | .request intent =>
        (.ok true,
          if c.processing then c.write "% AI request already in progress"
          else { c with processing := true }.spawn (.apply intent))
      | .analysis => (.ok true, (c.write processingText).spawn .analyze)
      | .command => c.command (Text.trimmed text) := by
  rw [handle, handleTrimmed, kindOf]
  split_ifs <;> rfl

/-- A line asks for a block if this is its kind. -/
theorem intent?_eq (text : String) :
    intent? text =
      match kindOf text with
      | .request intent => some intent
      | _ => none := by
  have hline : (Text.trimmed text).toList = Text.trim text.toList := String.toList_ofList
  rw [intent?, ← hline, kindOf]
  generalize Text.trimmed text = line
  by_cases hai : "ai ".toList.isPrefixOf line.toList = true
  · have hne (word : String) (hword : "ai ".toList.isPrefixOf word.toList = false) :
        line ≠ word := by
      intro heq
      rw [heq, hword] at hai
      exact Bool.false_ne_true hai
    have hempty : line.isEmpty = false := by
      rw [← Bool.not_eq_true, String.isEmpty_iff]
      exact hne "" (by decide)
    have hleave : (line = "exit" || line = "quit") = false := by
      simp only [hne "exit" (by decide), hne "quit" (by decide), decide_false, Bool.or_self]
    simp only [hai, hempty, hleave, hne "clear" (by decide), if_true, if_false,
      Bool.false_eq_true]
  · simp only [hai, if_false, Bool.false_eq_true]
    split_ifs <;> rfl

/-- The lines that ask for a block are those of this kind. -/
theorem kindOf_eq_request_iff {text intent : String} :
    kindOf text = .request intent ↔ intent? text = some intent := by
  rw [intent?_eq]
  cases kindOf text <;> simp

end LeafSwitch.Console
