import LeafSwitch.Console.State

/-!
# Console runs

A run reads lines until there are no more or the operator leaves. Then the tasks in the background
are brought to their end. A line without an answer breaks a run off.
-/

namespace LeafSwitch.Console

/-- What is read: a line, or a pause in which the tasks in the background go on. -/
abbrev Input := Option String

/-- Handle what is read, and tell what was left unread when the operator left. -/
def readAll (c : Console) : List Input → Except DisplayError (List Input) × Console
  | [] => (.ok [], c)
  | none :: rest => c.pump.readAll rest
  | some line :: rest =>
    match c.handle line with
    | (.ok true, c) => c.readAll rest
    | (.ok false, c) => (.ok rest, c)
    | (.error cause, c) => (.error cause, c)

/-- A run over what is read. -/
def run (c : Console) (inputs : List Input) : Except DisplayError (List Input) × Console :=
  match (c.write welcome).readAll inputs with
  | (.ok unread, c) => (.ok unread, c.pump)
  | (.error cause, c) => (.error cause, c)

/-- Handle lines, showing the prompt before each of them and once more where there is none left; the
tasks in the background go on while the operator types. -/
def converse (c : Console) : List String → Except DisplayError Unit × Console
  | [] => (.ok (), (c.put c.prompt).pump)
  | line :: rest =>
    match (c.put c.prompt).pump.handle line with
    | (.ok true, c) => c.converse rest
    | (.ok false, c) => (.ok (), c)
    | (.error cause, c) => (.error cause, c)

/-- A run with prompts. -/
def dialogue (c : Console) (lines : List String) : Except DisplayError Unit × Console :=
  match (c.write welcome).converse lines with
  | (.ok (), c) => (.ok (), c.pump)
  | (.error cause, c) => (.error cause, c)

end LeafSwitch.Console
