import LeafSwitch.Console.State

/-!
# What happens at a console

Lines come in, turns are taken and questions are answered, one after another and in any order. What
an event comes to is told by deeds: how a line is met, that a block is asked for, that the answer is
there, and that a block is applied. Handling a line, letting the tasks go on and answering the
oldest question are made of such events.
-/

namespace LeafSwitch.Console

/-- What can happen at a console. -/
inductive Event where
  /-- The operator enters a line. -/
  | line (text : String)
  /-- One of the turns that are due is taken, given by its place. -/
  | turn (place : Nat)
  /-- One of the questions is answered, given by its place; its task gets a turn. -/
  | answer (place : Nat) (a : Answer)

/-- A console after an event; nothing happens at a place where there is nothing. -/
def step (c : Console) : Event → Console
  | .line text => (c.handle text).2
  | .turn place =>
    match c.due[place]? with
    | none => c
    | some turn => { c with due := c.due.eraseIdx place }.take turn
  | .answer place a =>
    match c.questions[place]? with
    | none => c
    | some question =>
      { c with
        questions := c.questions.eraseIdx place
        due := c.due ++ [.resume question a] }

/-- A console after events. -/
def steps (c : Console) (events : List Event) : Console :=
  events.foldl step c

/-- The intent of a line that asks for a block. -/
def intent? (text : String) : Option String :=
  let line := Text.trim text.toList
  if "ai ".toList.isPrefixOf line then some (Text.trimmed (String.ofList (line.drop 3))) else none

/-- What has been done. -/
inductive Deed where
  /-- A line that asks for a block has been accepted. -/
  | accepted (intent : String)
  /-- A line that asks for a block has been refused. -/
  | refused (intent : String)
  /-- Another line has been handled. -/
  | handled (text : String)
  /-- A block has been asked for. -/
  | asked (intent : String)
  /-- The answer to what was asked is there. -/
  | answered (intent : String) (a : Answer)
  /-- A block has been applied. -/
  | applied (intent block : String)

/-- The deeds of a console that meets a line. -/
def lineDeeds (c : Console) (text : String) : List Deed :=
  match intent? text with
  | some intent => if c.processing then [.refused intent] else [.accepted intent]
  | none => [.handled text]

/-- The deeds of a console that goes on with an answer to what it asked for: a block is applied at
once. -/
def answerDeeds (intent : String) (a : Answer) : List Deed :=
  match a with
  | .ok block => [.answered intent a, .applied intent block]
  | .error _ => [.answered intent a]

/-- The answer of a collaborator that does not wait. -/
def answerAtOnce? (c : Console) (intent : String) : Option Answer :=
  match c.collaborator with
  | .remote => none
  | .scripted blocks _ => some (firstOf blocks).1
  | .service client outcomes =>
    some (.ok (client.configFor c.switch.site intent c.switch.device outcomes).result)

/-- The deeds of a console that takes a turn. -/
def turnDeeds (c : Console) : Turn → List Deed
  | .start (.apply intent) =>
    .asked intent :: ((c.answerAtOnce? intent).map (answerDeeds intent)).getD []
  | .resume (.block intent _) a => answerDeeds intent a
  | _ => []

/-- The deeds of an event. -/
def deeds (c : Console) : Event → List Deed
  | .line text => c.lineDeeds text
  | .turn place => (c.due[place]?.map c.turnDeeds).getD []
  | .answer _ _ => []

/-- The deeds of events, in order. -/
def history (c : Console) : List Event → List Deed
  | [] => []
  | e :: rest => c.deeds e ++ (c.step e).history rest

/-- One more event adds its deeds. -/
theorem history_snoc (c : Console) (events : List Event) (e : Event) :
    c.history (events ++ [e]) = c.history events ++ (c.steps events).deeds e := by
  induction events generalizing c with
  | nil => exact List.append_nil _
  | cons x rest ih =>
    rw [List.cons_append, history, ih, history, List.append_assoc]
    rfl

/-- A line is handled. -/
theorem step_line (c : Console) (text : String) : c.step (.line text) = (c.handle text).2 := rfl

/-- One more event is one more step. -/
theorem steps_snoc (c : Console) (events : List Event) (e : Event) :
    c.steps (events ++ [e]) = (c.steps events).step e := by
  rw [steps, List.foldl_append]
  rfl

/-! ### Operations are made of events -/

/-- Taking the turn that is due first is an event. -/
theorem advance_eq_step (c : Console) : c.advance = c.step (.turn 0) := by
  rw [advance, step]
  cases c.due <;> rfl

/-- Letting the tasks go on takes turns. -/
theorem pump_eq_steps (c : Console) :
    c.pump = c.steps (List.replicate (2 * c.due.length) (.turn 0)) := by
  rw [pump]
  generalize 2 * c.due.length = count
  induction count generalizing c with
  | zero => rfl
  | succ count ih =>
    rw [advanceBy, ih, advance_eq_step]
    rfl

/-- Answering the oldest question is an event, and the tasks go on after it. -/
theorem exists_reply_eq_steps (c : Console) (a : Answer) :
    ∃ count, (c.reply a).2 = c.steps (.answer 0 a :: List.replicate count (.turn 0)) := by
  rw [reply]
  cases hq : c.questions with
  | nil =>
    refine ⟨2 * c.due.length, ?_⟩
    have hstep : c.step (.answer 0 a) = c := by
      rw [step, hq]
      rfl
    rw [steps, List.foldl_cons, hstep]
    exact c.pump_eq_steps
  | cons question rest =>
    have hstep : c.step (.answer 0 a) =
        { c with questions := rest, due := c.due ++ [Turn.resume question a] } := by
      rw [step, hq]
      rfl
    refine ⟨2 * (c.due ++ [Turn.resume question a]).length, ?_⟩
    rw [steps, List.foldl_cons, hstep]
    exact pump_eq_steps _

end LeafSwitch.Console
