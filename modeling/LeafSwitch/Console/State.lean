import LeafSwitch.Block.Apply
import LeafSwitch.Command
import LeafSwitch.Intent.Client

/-!
# The console

The console takes lines from the operator while requests to the model are under way in the
background. A background task starts when its turn comes, asks its question and waits; when the
answer is there it takes its next turn, and does the rest in one piece. Turns are taken in the order
in which they fall due. Only one request for a block is under way at a time.
-/

namespace LeafSwitch

namespace Console

/-- What the console does in the background. -/
inductive Job where
  /-- Get a block for an intent, and apply it. -/
  | apply (intent : String)
  /-- Get an analysis of the log. -/
  | analyze
  deriving DecidableEq, Repr

/-- A question to the model. -/
inductive Question where
  /-- What block does what is wanted of a device as it is now? -/
  | block (intent : String) (device : Device)
  /-- What does the log tell? -/
  | analysis (logs : List LogEntry)
  deriving DecidableEq, Repr

/-- An answer is a text, or the text of a failure. -/
abbrev Answer := Except String String

/-- A turn of a task. -/
inductive Turn where
  /-- The task starts. -/
  | start (job : Job)
  /-- The question of the task has been answered. -/
  | resume (question : Question) (answer : Answer)
  /-- The task is over. -/
  | settle (failed : Bool)

/-- Who answers questions. -/
inductive Collaborator where
  /-- Answers come later. -/
  | remote
  /-- Answers come at once, from two lists; it is a failure if there are none left. -/
  | scripted (blocks analyses : List String)
  /-- A client of the model service answers at once, as the outcomes of its requests have it. -/
  | service (client : Intent.Client) (outcomes : Nat → Intent.Outcome)

end Console

/-- The console. -/
structure Console where
  /-- The switch. -/
  switch : Switch
  /-- Who files applied blocks, if anyone. -/
  tracker : Option Tracker
  /-- Who answers questions. -/
  collaborator : Console.Collaborator
  /-- Whether a request for a block is under way. -/
  processing : Bool
  /-- The turns that are due, first one first. -/
  due : List Console.Turn
  /-- The questions without an answer, oldest first. -/
  questions : List Console.Question
  /-- The background tasks that are not over. -/
  unfinished : Nat
  /-- The intents for which a block has been asked. -/
  intents : List String
  /-- What has been written. -/
  output : String

namespace Console

/-- A console at the start. -/
def ofSwitch (switch : Switch) (tracker : Option Tracker) (collaborator : Collaborator) : Console :=
  ⟨switch, tracker, collaborator, false, [], [], 0, [], ""⟩

/-- The channel of the journal for the console. -/
def channel : String := "stratus_sim.console"

/-- What the console says at the start. -/
def welcome : String :=
  Text.join "\n"
    ["",
      "Stratus EOS (Extensible Operating System)",
      "Software Image: v4.32.1F",
      "(c) Copyright 2025 Stratus Networks, Inc.",
      "",
      "Type '?' for available commands.",
      "Type 'ai <intent>' to use Gemini Intent-Based Networking.",
      ""]

/-- What clears the screen. -/
def clearing : String := "\x1b[2J\x1b[H"

/-- What the console says about a request under way. -/
def processingText : String := "Processing..."

/-- The prompt. -/
def prompt (c : Console) : String :=
  if c.processing then c.switch.device.hostname ++ " [" ++ processingText ++ "]# "
  else c.switch.device.hostname ++ "# "

/-- Write a text as it is. -/
def put (c : Console) (text : String) : Console :=
  { c with output := c.output ++ text }

/-- Write a line. -/
def write (c : Console) (text : String) : Console :=
  c.put (text ++ "\n")

/-- Start a task in the background; its first turn is due after those that are due already. -/
def spawn (c : Console) (job : Job) : Console :=
  { c with due := c.due ++ [.start job], unfinished := c.unfinished + 1 }

/-- Leave a line to the switch, and write its answer if there is one. -/
def command (c : Console) (line : String) : Except DisplayError Bool × Console :=
  let (answer, switch) := c.switch.interpret line
  let c := { c with switch }
  match answer with
  | .ok text => (.ok true, if text.isEmpty then c else c.write text)
  | .error cause => (.error cause, c)

/-- Handle a line without blanks at its ends; the result is false where the operator leaves, and a
failure where the switch has no answer. -/
def handleTrimmed (c : Console) (line : String) : Except DisplayError Bool × Console :=
  if line.isEmpty then (.ok true, c)
  else if line = "exit" || line = "quit" then (.ok false, c)
  else if line = "clear" then (.ok true, c.put clearing)
  else if "ai ".toList.isPrefixOf line.toList then
    if c.processing then (.ok true, c.write "% AI request already in progress")
    else
      let intent := Text.trimmed (String.ofList (line.toList.drop 3))
      (.ok true, { c with processing := true }.spawn (.apply intent))
  else if line = "analyze" then (.ok true, (c.write processingText).spawn .analyze)
  else c.command line

/-- Handle a line. -/
def handle (c : Console) (line : String) : Except DisplayError Bool × Console :=
  c.handleTrimmed (Text.trimmed line)

/-- Show a block and apply it; the result tells whether that failed. -/
def applyBlock (c : Console) (intent block : String) : Bool × Console :=
  let c := c.write "Suggested Configuration:"
  let c := (Text.linesOf block).foldl (fun c line => c.write ("  " ++ line)) c
  let c := c.write "Applying configuration..."
  match c.switch.applyBlock c.tracker ⟨block, "gemini", some intent⟩ with
  | .error _ => (true, c)
  | .ok (report, switch) => (false, { c with switch }.write report.summary)

/-- Do the rest of a task whose question has been answered; its end falls due. -/
def finish (c : Console) (question : Question) (answer : Answer) : Console :=
  let (failed, c) :=
    match question, answer with
    | .block intent _, .ok block => { c with processing := false }.applyBlock intent block
    | .block _ _, .error _ => (true, { c with processing := false })
    | .analysis _, .ok text => (false, c.write text)
    | .analysis _, .error _ => (true, c)
  { c with due := c.due ++ [.settle failed] }

/-- Do the rest of a task that has got its answer from the model service. -/
def conclude (c : Console) (question : Question) (exchange : Intent.Exchange String) : Console :=
  let switch := { c.switch with site := exchange.site }
  { c with switch }.finish question (.ok exchange.result)

/-- The first text of a list is the answer; without one there is a failure. -/
def firstOf : List String → Answer × List String
  | [] => (.error "pop from empty list", [])
  | text :: rest => (.ok text, rest)

/-- Put a question to the collaborator. -/
def ask (c : Console) (question : Question) : Console :=
  match c.collaborator, question with
  | .remote, _ => { c with questions := c.questions ++ [question] }
  | .scripted blocks analyses, .block _ _ =>
    let (answer, blocks) := firstOf blocks
    { c with collaborator := .scripted blocks analyses }.finish question answer
  | .scripted blocks analyses, .analysis _ =>
    let (answer, analyses) := firstOf analyses
    { c with collaborator := .scripted blocks analyses }.finish question answer
  | .service client outcomes, .block intent device =>
    c.conclude question (client.configFor c.switch.site intent device outcomes)
  | .service client outcomes, .analysis logs =>
    c.conclude question (client.analysisOf c.switch.site logs outcomes)

/-- Begin a task. -/
def startJob (c : Console) : Job → Console
  | .apply intent =>
    let c := { c with processing := true, intents := c.intents ++ [intent] }
    (c.write "Analyzing intent with Gemini AI...").ask (.block intent c.switch.device)
  | .analyze => c.ask (.analysis c.switch.device.logs)

/-- Take a turn. -/
def take (c : Console) : Turn → Console
  | .start job => c.startJob job
  | .resume question answer => c.finish question answer
  | .settle failed =>
    let c := { c with unfinished := c.unfinished - 1 }
    if failed then
      { c with switch := c.switch.report (.error channel "Background console task failed") }
    else c

/-- Take the turn that is due first. -/
def advance (c : Console) : Console :=
  match c.due with
  | [] => c
  | turn :: rest => { c with due := rest }.take turn

/-- Take a number of turns. -/
def advanceBy : Nat → Console → Console
  | 0, c => c
  | n + 1, c => advanceBy n c.advance

/-- Let every task go on until it waits for an answer or is over: each turn that is due makes at
most one more fall due, the end of its task. -/
def pump (c : Console) : Console :=
  c.advanceBy (2 * c.due.length)

/-- Answer the oldest question, and let the tasks go on; the result is false where there was no
question. -/
def reply (c : Console) (answer : Answer) : Bool × Console :=
  match c.questions with
  | [] => (false, c.pump)
  | question :: rest =>
    (true, { c with questions := rest, due := c.due ++ [Turn.resume question answer] }.pump)

end Console

end LeafSwitch
