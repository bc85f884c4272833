import LeafSwitch.Console.Run
import LeafSwitch.Proofs.Console.Tasks
import Mathlib.Data.List.Induction
import Mathlib.Tactic.ByContra

/-!
# Runs under way

A run reads lines while tasks go on in the background, and then waits until they are over. Lines are
read, turns are taken and questions are answered in any order. Whatever the order, no line is read
behind the one at which the operator leaves, only so many things can happen, and nothing more can
happen exactly where nothing more is read and no task is left. A run returns then, unless a line
without an answer has broken it off.
-/

namespace LeafSwitch.Console

/-- The lines up to the first one at which the operator leaves, and this one. -/
def upToLeaving : List String → List String
  | [] => []
  | line :: rest => if kindOf line = .leaving then [line] else line :: upToLeaving rest

/-- What a run is at. -/
inductive Stage where
  /-- Lines are read. -/
  | reading
  /-- Nothing more is read, and tasks are waited for. -/
  | waiting
  /-- A line has broken the run off, and nothing is waited for. -/
  | broken (cause : DisplayError)
  deriving DecidableEq

/-- The stage of a run behind a line. -/
def Stage.behind : Except DisplayError Bool → Stage
  | .ok true => .reading
  | .ok false => .waiting
  | .error cause => .broken cause

/-- The stage of a run that has come to something. -/
def Stage.ofOutcome {α : Type} : Except DisplayError α → Stage
  | .ok _ => .waiting
  | .error cause => .broken cause

/-- A run under way. -/
structure Loop where
  /-- The console. -/
  console : Console
  /-- The lines that have not been read. -/
  unread : List String
  /-- What the run is at. -/
  stage : Stage

namespace Loop

/-- What can happen in a run. -/
inductive Event where
  /-- The next line is read, or there is none. -/
  | read
  /-- One of the turns that are due is taken, given by its place. -/
  | turn (place : Nat)
  /-- One of the questions is answered, given by its place. -/
  | answer (place : Nat) (a : Answer)

/-- A run that begins. -/
def start (c : Console) (lines : List String) : Loop :=
  ⟨c.write welcome, lines, .reading⟩

/-- A run after an event. -/
def step (l : Loop) : Event → Loop
  | .read =>
    if l.stage = .reading then
      match l.unread with
      | [] => { l with stage := .waiting }
      | line :: rest => ⟨(l.console.handle line).2, rest, .behind (l.console.handle line).1⟩
    else l
  | .turn place => { l with console := l.console.step (.turn place) }
  | .answer place a => { l with console := l.console.step (.answer place a) }

/-- A run after events. -/
def steps (l : Loop) (events : List Event) : Loop :=
  events.foldl step l

theorem steps_cons (l : Loop) (e : Event) (rest : List Event) :
    l.steps (e :: rest) = (l.step e).steps rest := rfl

/-- A run returns when tasks are waited for and none is counted as not over. -/
def Returned (l : Loop) : Prop :=
  l.stage = .waiting ∧ l.console.unfinished = 0

/-- What an event of a run is at the console. -/
def happening (l : Loop) : Event → List Console.Event
  | .read => if l.stage = .reading then (l.unread.head?.map .line).toList else []
  | .turn place => [.turn place]
  | .answer place a => [.answer place a]

/-- What the events of a run are at the console. -/
def trace (l : Loop) : List Event → List Console.Event
  | [] => []
  | e :: rest => l.happening e ++ (l.step e).trace rest

/-- The lines that are handled in a run. -/
def handled (l : Loop) (events : List Event) : List String :=
  (l.trace events).filterMap Console.Event.line?

/-! ### A run is what happens at its console -/

/-- Reading a line means handling it. -/
theorem step_read_cons {l : Loop} (hreading : l.stage = .reading) {line : String}
    {rest : List String} (hunread : l.unread = line :: rest) :
    l.step .read = ⟨(l.console.handle line).2, rest, .behind (l.console.handle line).1⟩ := by
  rw [step, if_pos hreading, hunread]

/-- Where there is no line, nothing more is read. -/
theorem step_read_nil {l : Loop} (hreading : l.stage = .reading) (hunread : l.unread = []) :
    l.step .read = { l with stage := .waiting } := by
  rw [step, if_pos hreading, hunread]

/-- Nothing is read once reading is over. -/
theorem step_read_of_not_reading {l : Loop} (h : l.stage ≠ .reading) : l.step .read = l := by
  rw [step, if_neg h]

/-- A turn leaves the run at the same stage. -/
theorem step_turn_stage (l : Loop) (place : Nat) : (l.step (.turn place)).stage = l.stage := rfl

/-- So does an answer. -/
theorem step_answer_stage (l : Loop) (place : Nat) (a : Answer) :
    (l.step (.answer place a)).stage = l.stage := rfl

/-- The console of a run goes through what happens at it. -/
theorem step_console (l : Loop) (e : Event) :
    (l.step e).console = l.console.steps (l.happening e) := by
  cases e with
  | read =>
    rw [happening]
    by_cases hreading : l.stage = .reading
    · rw [if_pos hreading]
      cases hunread : l.unread with
      | nil =>
        rw [step_read_nil hreading hunread]
        rfl
      | cons line rest =>
        have hline : ((line :: rest).head?.map Console.Event.line).toList = [.line line] := rfl
        rw [step_read_cons hreading hunread, hline, Console.steps, List.foldl_cons,
          Console.step_line, List.foldl_nil]
    · rw [if_neg hreading, step_read_of_not_reading hreading]
      rfl
  | turn place => rfl
  | answer place a => rfl

/-- The console of a run goes through what happens at it, event by event. -/
theorem steps_console (l : Loop) (events : List Event) :
    (l.steps events).console = l.console.steps (l.trace events) := by
  induction events generalizing l with
  | nil => rfl
  | cons e rest ih =>
    rw [steps_cons, ih, step_console, trace, Console.steps, Console.steps, Console.steps,
      List.foldl_append]

/-! ### Which lines are handled -/

/-- The lines that are still to be handled, or would be if the run had not been broken off. -/
def remaining (l : Loop) : List String :=
  match l.stage with
  | .waiting => []
  | .reading | .broken _ => upToLeaving l.unread

/-- A line is followed by others unless the operator leaves, or the switch has no answer to it. -/
theorem handle_fst (c : Console) (text : String) :
    (c.handle text).1 =
      match kindOf text with
      | .leaving => .ok false
      | .command => (c.switch.interpret (Text.trimmed text)).1.map fun _ => true
      | .blank | .clearing | .request _ | .analysis => .ok true := by
  rw [handle_eq]
  cases kindOf text with
  | command =>
    dsimp only
    rw [command_eq]
  | blank | leaving | clearing | request | analysis => rfl

/-- Tasks are waited for behind the line at which the operator leaves. -/
theorem behind_of_leaving {c : Console} {text : String} (h : kindOf text = .leaving) :
    Stage.behind (c.handle text).1 = .waiting := by
  rw [handle_fst, h]
  rfl

/-- Behind any other line the run goes on reading, or is broken off. -/
theorem behind_ne_waiting {c : Console} {text : String} (h : kindOf text ≠ .leaving) :
    Stage.behind (c.handle text).1 ≠ .waiting := by
  rw [handle_fst]
  cases hkind : kindOf text with
  | leaving => exact absurd hkind h
  | blank | clearing | request | analysis => exact nofun
  | command =>
    dsimp only
    cases (c.switch.interpret (Text.trimmed text)).1 with
    | ok answer => exact nofun
    | error cause => exact nofun

/-- An event handles the first of the lines that are still to be handled, or none. -/
theorem happening_remaining (l : Loop) (e : Event) :
    (l.happening e).filterMap Console.Event.line? ++ (l.step e).remaining = l.remaining := by
  cases e with
  | read =>
    rw [happening]
    by_cases hreading : l.stage = .reading
    · rw [if_pos hreading, remaining, remaining, hreading]
      cases hunread : l.unread with
      | nil =>
        rw [step_read_nil hreading hunread]
        rfl
      | cons line rest =>
        rw [step_read_cons hreading hunread, upToLeaving]
        dsimp only
        by_cases hleaving : kindOf line = .leaving
        · rw [behind_of_leaving hleaving, if_pos hleaving]
          rfl
        · have hbehind := behind_ne_waiting (c := l.console) hleaving
          rw [if_neg hleaving]
          cases hstage : Stage.behind (l.console.handle line).1 with
          | waiting => exact absurd hstage hbehind
          | reading => rfl
          | broken cause => rfl
    · rw [if_neg hreading, step_read_of_not_reading hreading]
      rfl
  | turn place => rfl
  | answer place a => rfl

/-- The lines that have been handled and those still to be handled are those up to the first one at
which the operator leaves. -/
theorem handled_append_remaining (l : Loop) (events : List Event) :
    l.handled events ++ (l.steps events).remaining = l.remaining := by
  induction events generalizing l with
  | nil => rfl
  | cons e rest ih =>
    have hhandled : l.handled (e :: rest) =
        (l.happening e).filterMap Console.Event.line? ++ (l.step e).handled rest :=
      List.filterMap_append
    rw [steps_cons, hhandled, List.append_assoc, ih, happening_remaining]

/-! ### Where a run is broken off -/

/-- What one more event is at the console. -/
theorem trace_snoc (l : Loop) (events : List Event) (e : Event) :
    l.trace (events ++ [e]) = l.trace events ++ (l.steps events).happening e := by
  induction events generalizing l with
  | nil => exact List.append_nil _
  | cons x rest ih =>
    rw [List.cons_append, trace, ih, trace, List.append_assoc]
    rfl

/-- A run is broken off behind a line that fails. -/
theorem behind_eq_broken_iff {outcome : Except DisplayError Bool} {cause : DisplayError} :
    Stage.behind outcome = .broken cause ↔ outcome = .error cause := by
  match outcome with
  | .ok true => exact iff_of_false nofun nofun
  | .ok false => exact iff_of_false nofun nofun
  | .error cause' =>
    exact ⟨fun h => congrArg Except.error (Stage.broken.inj h),
      fun h => congrArg Stage.broken (Except.error.inj h)⟩

/-- A run that has been broken off has met a line that failed. -/
theorem exists_line_of_broken {l : Loop} (hstart : l.stage = .reading) {events : List Event}
    {cause : DisplayError} (h : (l.steps events).stage = .broken cause) :
    ∃ before line after, l.trace events = before ++ .line line :: after ∧
      ((l.console.steps before).handle line).1 = .error cause := by
  induction events using List.reverseRecOn with
  | nil =>
    have hbroken : l.stage = .broken cause := h
    rw [hstart] at hbroken
    cases hbroken
  | append_singleton events e ih =>
    have hearlier : (l.steps events).stage = .broken cause →
        ∃ before line after, l.trace (events ++ [e]) = before ++ .line line :: after ∧
          ((l.console.steps before).handle line).1 = .error cause := by
      intro hbroken
      obtain ⟨before, line, after, htrace, hfails⟩ := ih hbroken
      refine ⟨before, line, after ++ (l.steps events).happening e, ?_, hfails⟩
      rw [trace_snoc, htrace, List.append_assoc, List.cons_append]
    have hsteps : l.steps (events ++ [e]) = (l.steps events).step e := by
      rw [steps, List.foldl_append]
      rfl
    rw [hsteps] at h
    cases e with
    | turn place =>
      rw [step_turn_stage] at h
      exact hearlier h
    | answer place a =>
      rw [step_answer_stage] at h
      exact hearlier h
    | read =>
      by_cases hreading : (l.steps events).stage = .reading
      · cases hunread : (l.steps events).unread with
        | nil =>
          rw [step_read_nil hreading hunread] at h
          cases h
        | cons line rest =>
          rw [step_read_cons hreading hunread] at h
          dsimp only at h
          rw [behind_eq_broken_iff, steps_console] at h
          refine ⟨l.trace events, line, [], ?_, h⟩
          rw [trace_snoc, happening, if_pos hreading, hunread]
          rfl
      · rw [step_read_of_not_reading hreading] at h
        exact hearlier h

/-! ### How much can happen -/

/-- How much can still happen: a line may set a task going, and reading comes to an end. -/
def rest (l : Loop) : Nat :=
  (if l.stage = .reading then 5 * l.unread.length + 1 else 0) + restOf l.console.tasks

/-- Reading leaves less to happen, until there is nothing more to read. -/
theorem rest_step_read_lt {l : Loop} (hreading : l.stage = .reading) :
    (l.step .read).rest < l.rest := by
  rw [rest, rest, if_pos hreading]
  cases hunread : l.unread with
  | nil =>
    rw [step_read_nil hreading hunread]
    exact Nat.add_lt_add_right Nat.zero_lt_one _
  | cons line more =>
    -- The task that a line may set going counts less than the line.
    have htask : restOf (l.console.handle line).2.tasks ≤ restOf l.console.tasks + 4 :=
      l.console.restOf_step_line_le line
    rw [step_read_cons hreading hunread, List.length_cons]
    dsimp only
    split_ifs <;> omega

/-- Whatever happens leaves less to happen, unless it is nothing. -/
theorem step_eq_or_rest_lt (l : Loop) (e : Event) : l.step e = l ∨ (l.step e).rest < l.rest := by
  cases e with
  | read =>
    by_cases hreading : l.stage = .reading
    · exact Or.inr (rest_step_read_lt hreading)
    · exact Or.inl (step_read_of_not_reading hreading)
  | turn place =>
    cases ht : l.console.due[place]? with
    | none =>
      left
      rw [step, Console.step_turn_none ht]
    | some t => exact Or.inr (Nat.add_lt_add_left (restOf_step_turn_lt ht) _)
  | answer place a =>
    cases hq : l.console.questions[place]? with
    | none =>
      left
      rw [step, Console.step_answer_none hq]
    | some q => exact Or.inr (Nat.add_lt_add_left (restOf_step_answer_lt hq a) _)

/-- Events each of which makes something happen. -/
def Lively (l : Loop) : List Event → Prop
  | [] => True
  | e :: rest => l.step e ≠ l ∧ (l.step e).Lively rest

/-- Only so many events can make something happen. -/
theorem Lively.length_le {l : Loop} {events : List Event} (h : l.Lively events) :
    events.length ≤ l.rest := by
  induction events generalizing l with
  | nil => exact Nat.zero_le _
  | cons e rest ih =>
    have hless := (l.step_eq_or_rest_lt e).resolve_left h.1
    have hmore := ih h.2
    rw [List.length_cons]
    omega

/-- The tasks are counted right all through a run. -/
theorem tallies_steps {l : Loop} (h : l.console.Tallies) (events : List Event) :
    (l.steps events).console.Tallies := by
  rw [steps_console]
  generalize l.trace events = happenings
  induction happenings using List.reverseRecOn with
  | nil => exact h
  | append_singleton before e ih =>
    rw [Console.steps_snoc]
    exact ih.step e

/-- No task is in the background where none is counted as not over. -/
theorem tasks_eq_nil {c : Console} (htally : c.Tallies) (h : c.unfinished = 0) : c.tasks = [] := by
  rw [← List.length_eq_zero_iff, ← htally]
  exact h

/-- A run is at its end when nothing more is read and no task is counted as not over. -/
def Over (l : Loop) : Prop :=
  l.stage ≠ .reading ∧ l.console.unfinished = 0

/-- At its end, a run has returned or has been broken off. -/
theorem over_iff_returned_or (l : Loop) :
    l.Over ↔ l.Returned ∨ ∃ cause, l.stage = .broken cause ∧ l.console.unfinished = 0 := by
  rw [Over, Returned]
  cases l.stage <;> simp

/-- Something can happen in a run that is not at its end. -/
theorem exists_rest_lt {l : Loop} (htally : l.console.Tallies) (h : ¬l.Over) :
    ∃ e, (l.step e).rest < l.rest := by
  by_cases hreading : l.stage = .reading
  · exact ⟨.read, rest_step_read_lt hreading⟩
  · have htasks : l.console.tasks ≠ [] := by
      intro hnone
      rw [Tallies, hnone] at htally
      exact h ⟨hreading, htally⟩
    cases hdue : l.console.due with
    | cons t due =>
      have ht : l.console.due[0]? = some t := by rw [hdue, List.getElem?_cons_zero]
      exact ⟨.turn 0, Nat.add_lt_add_left (restOf_step_turn_lt ht) _⟩
    | nil =>
      cases hquestions : l.console.questions with
      | nil => exact absurd (tasks_eq_nil_iff.mpr ⟨hdue, hquestions⟩) htasks
      | cons q questions =>
        have hq : l.console.questions[0]? = some q := by rw [hquestions, List.getElem?_cons_zero]
        exact ⟨.answer 0 (.ok ""), Nat.add_lt_add_left (restOf_step_answer_lt hq _) _⟩

/-- A run is at its end exactly where nothing more can happen. -/
theorem over_iff {l : Loop} (htally : l.console.Tallies) : l.Over ↔ ∀ e, l.step e = l := by
  constructor
  · intro h e
    obtain ⟨hdue, hquestions⟩ := tasks_eq_nil_iff.mp (tasks_eq_nil htally h.2)
    cases e with
    | read => exact step_read_of_not_reading h.1
    | turn place =>
      rw [step, Console.step_turn_none]
      rw [hdue, List.getElem?_nil]
    | answer place a =>
      rw [step, Console.step_answer_none]
      rw [hquestions, List.getElem?_nil]
  · intro h
    by_contra hover
    obtain ⟨e, hless⟩ := exists_rest_lt htally hover
    rw [h e] at hless
    exact Nat.lt_irrefl _ hless

/-- Every run can be brought to its end. -/
theorem exists_over {l : Loop} (htally : l.console.Tallies) :
    ∃ events, (l.steps events).Over := by
  induction hrest : l.rest using Nat.strongRecOn generalizing l with
  | ind n ih =>
    by_cases h : l.Over
    · exact ⟨[], h⟩
    · obtain ⟨e, hless⟩ := exists_rest_lt htally h
      have hnext : (l.step e).console.Tallies := tallies_steps htally [e]
      obtain ⟨events, hover⟩ := ih (l.step e).rest (hrest ▸ hless) hnext rfl
      exact ⟨e :: events, hover⟩

/-! ### The run over what is read -/

/-- A run after two rows of events. -/
theorem steps_append (l : Loop) (a b : List Event) : l.steps (a ++ b) = (l.steps a).steps b := by
  rw [steps, List.foldl_append]
  rfl

/-- Turns that are taken one after another change the console alone. -/
theorem steps_turns (l : Loop) (count : Nat) :
    l.steps (List.replicate count (.turn 0)) =
      { l with console := l.console.steps (List.replicate count (.turn 0)) } := by
  induction count generalizing l with
  | zero => rfl
  | succ count ih =>
    rw [List.replicate_succ, List.replicate_succ]
    exact ih (l.step (.turn 0))

/-- Letting the tasks go on takes turns. -/
theorem exists_steps_eq_pump (l : Loop) :
    ∃ events, l.steps events = { l with console := l.console.pump } := by
  refine ⟨List.replicate (2 * l.console.due.length) (.turn 0), ?_⟩
  rw [steps_turns, pump_eq_steps]

/-- Reading everything there is, with pauses, is a way in which a run can go on. -/
theorem exists_steps_eq_readAll (c : Console) (inputs : List Input) :
    ∃ events unread, (⟨c, inputs.filterMap id, .reading⟩ : Loop).steps events =
        ⟨(c.readAll inputs).2, unread, .ofOutcome (c.readAll inputs).1⟩ ∧
      ∀ left, (c.readAll inputs).1 = .ok left → unread = left.filterMap id := by
  induction inputs generalizing c with
  | nil => exact ⟨[.read], [], rfl, fun left h => by rw [← Except.ok.inj h]; rfl⟩
  | cons input rest ih =>
    cases input with
    | none =>
      obtain ⟨turns, hpump⟩ := exists_steps_eq_pump ⟨c, rest.filterMap id, .reading⟩
      obtain ⟨events, unread, hevents, hunread⟩ := ih c.pump
      refine ⟨turns ++ events, unread, ?_, hunread⟩
      rw [steps_append]
      exact (congrArg (fun l : Loop => l.steps events) hpump).trans hevents
    | some line =>
      rw [readAll]
      cases hhandle : c.handle line with
      | mk outcome after =>
        have hstep : (⟨c, (some line :: rest).filterMap id, .reading⟩ : Loop).step .read =
            ⟨after, rest.filterMap id, .behind outcome⟩ := by
          rw [step_read_cons rfl rfl, hhandle]
        match outcome with
        | .error cause =>
          refine ⟨[.read], rest.filterMap id, ?_, nofun⟩
          rw [steps_cons, hstep]
          rfl
        | .ok false =>
          refine ⟨[.read], rest.filterMap id, ?_, fun left h => by rw [← Except.ok.inj h]⟩
          rw [steps_cons, hstep]
          rfl
        | .ok true =>
          obtain ⟨events, unread, hevents, hunread⟩ := ih after
          refine ⟨.read :: events, unread, ?_, hunread⟩
          rw [steps_cons, hstep]
          exact hevents

/-- The run over what is read is one of the ways in which a run can go on. -/
theorem exists_steps_eq_run (c : Console) (inputs : List Input) :
    ∃ events unread, (start c (inputs.filterMap id)).steps events =
        ⟨(c.run inputs).2, unread, .ofOutcome (c.run inputs).1⟩ ∧
      ∀ left, (c.run inputs).1 = .ok left → unread = left.filterMap id := by
  obtain ⟨events, unread, hread, hunread⟩ := exists_steps_eq_readAll (c.write welcome) inputs
  rw [run]
  cases houtcome : (c.write welcome).readAll inputs with
  | mk outcome after =>
    rw [houtcome] at hread hunread
    cases outcome with
    | error cause => exact ⟨events, unread, hread, nofun⟩
    | ok left =>
      obtain ⟨turns, hpump⟩ := exists_steps_eq_pump ⟨after, unread, .waiting⟩
      refine ⟨events ++ turns, unread, ?_, hunread⟩
      rw [steps_append]
      exact (congrArg (fun l : Loop => l.steps turns) hread).trans hpump

end Loop

end LeafSwitch.Console
