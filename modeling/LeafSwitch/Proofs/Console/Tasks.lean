import LeafSwitch.Proofs.Console.Lines
import Mathlib.Data.List.Perm.Basic

/-!
# Background tasks

Every background task is at one of four stages: it is to start, it has asked its question, the
answer is there, or it is to end. It goes through them in this order, may ask and have the answer at
once, and is over when it has ended. The console counts exactly the tasks that are at one of the
stages.
-/

namespace LeafSwitch.Console

/-- A background task, by the stage it is at. -/
inductive Task where
  /-- It is to start. -/
  | starting (job : Job)
  /-- It has asked its question. -/
  | asking (question : Question)
  /-- Its question has been answered. -/
  | answered (question : Question) (a : Answer)
  /-- It is to end. -/
  | ending

/-- The task whose turn it is. -/
def Turn.task : Turn → Task
  | .start job => .starting job
  | .resume question a => .answered question a
  | .settle _ => .ending

/-- The tasks in the background. -/
def tasks (c : Console) : List Task :=
  c.due.map Turn.task ++ c.questions.map Task.asking

/-- The question of a task that starts. -/
def questionOf (c : Console) : Job → Question
  | .apply intent => .block intent c.switch.device
  | .analyze => .analysis c.switch.device.logs

/-- The answer to a question, of a collaborator that does not wait. -/
def answerOf? (c : Console) (question : Question) : Option Answer :=
  match c.collaborator, question with
  | .remote, _ => none
  | .scripted blocks _, .block _ _ => some (firstOf blocks).1
  | .scripted _ analyses, .analysis _ => some (firstOf analyses).1
  | .service client outcomes, .block intent device =>
    some (.ok (client.configFor c.switch.site intent device outcomes).result)
  | .service client outcomes, .analysis logs =>
    some (.ok (client.analysisOf c.switch.site logs outcomes).result)

/-- The stage at which a question leaves its task. -/
def stageOf (c : Console) (question : Question) : Task :=
  match c.answerOf? question with
  | none => .asking question
  | some _ => .ending

/-- Where a turn leaves its task. -/
def stageAfter (c : Console) : Turn → List Task
  | .start job => [c.stageOf (c.questionOf job)]
  | .resume _ _ => [.ending]
  | .settle _ => []

/-- The task that a line sets going in the background. -/
def jobOf? (c : Console) (text : String) : Option Job :=
  match kindOf text with
  | .request intent => if c.processing then none else some (.apply intent)
  | .analysis => some .analyze
  | .blank | .leaving | .clearing | .command => none

/-! ### What goes on in the background -/

/-- Writing an empty text changes nothing. -/
theorem put_empty (c : Console) : c.put "" = c := by
  rw [put, String.append_empty]

/-- Writing two texts is writing them as one. -/
theorem put_put (c : Console) (a b : String) : (c.put a).put b = c.put (a ++ b) := by
  rw [put, put, put, String.append_assoc]

/-- The lines of a block as they are shown, each of them indented. -/
def shown (lines : List String) : String :=
  String.join (lines.map fun line => "  " ++ line ++ "\n")

/-- Writing lines one by one is writing them as they are shown. -/
theorem foldl_write (c : Console) (lines : List String) :
    lines.foldl (fun c line => c.write ("  " ++ line)) c = c.put (shown lines) := by
  induction lines generalizing c with
  | nil => exact c.put_empty.symm
  | cons line rest ih =>
    rw [List.foldl_cons, ih, write, put_put, shown, shown, List.map_cons, String.join_cons]

/-- What is written about a block before it is applied. -/
def announcement (block : String) : String :=
  "Suggested Configuration:\n" ++ shown (Text.linesOf block) ++ "Applying configuration...\n"

/-- Applying a block means showing it, applying it to the switch, and telling what has been done. -/
theorem applyBlock_eq (c : Console) (intent block : String) :
    c.applyBlock intent block =
      match c.switch.applyBlock c.tracker ⟨block, "gemini", some intent⟩ with
      | .error _ => (true, c.put (announcement block))
      | .ok (report, switch) =>
        (false, { c.put (announcement block ++ (report.summary ++ "\n")) with switch }) := by
  have hannounced : ((c.write "Suggested Configuration:").put (shown (Text.linesOf block))).write
      "Applying configuration..." = c.put (announcement block) := by
    rw [write, write, put_put, put_put]
    rfl
  simp only [applyBlock, foldl_write, hannounced]
  have hswitch : (c.put (announcement block)).switch = c.switch := rfl
  have htracker : (c.put (announcement block)).tracker = c.tracker := rfl
  rw [hswitch, htracker]
  cases c.switch.applyBlock c.tracker ⟨block, "gemini", some intent⟩ with
  | error e => rfl
  | ok outcome =>
    exact congrArg (fun told : Console => (false, { told with switch := outcome.2 }))
      (c.put_put (announcement block) (outcome.1.summary ++ "\n"))

/-- Going on with an answer may write something, change the switch and make another request
possible; the end of the task falls due. -/
theorem exists_finish_eq (c : Console) (question : Question) (a : Answer) :
    ∃ failed switch processing text, c.finish question a =
      { c.put text with switch, processing, due := c.due ++ [.settle failed] } := by
  have hsilent (failed processing : Bool) :
      ({ c with processing, due := c.due ++ [.settle failed] } : Console) =
        { c.put "" with
          switch := c.switch
          processing
          due := c.due ++ [.settle failed] } := by
    rw [put_empty]
  cases question with
  | analysis logs =>
    cases a with
    | error text => exact ⟨true, c.switch, c.processing, "", hsilent true c.processing⟩
    | ok text => exact ⟨false, c.switch, c.processing, text ++ "\n", rfl⟩
  | block intent device =>
    cases a with
    | error text => exact ⟨true, c.switch, false, "", hsilent true false⟩
    | ok block =>
      rw [finish]
      simp only [applyBlock_eq]
      cases c.switch.applyBlock c.tracker ⟨block, "gemini", some intent⟩ with
      | error e => exact ⟨true, c.switch, false, _, rfl⟩
      | ok outcome => exact ⟨false, outcome.2, false, _, rfl⟩

/-- A question waits for its answer, or its task goes on with the answer at once; asking may have
moved the collaborator and the site by then. -/
theorem ask_eq (c : Console) (question : Question) :
    match c.answerOf? question with
    | none => c.ask question = { c with questions := c.questions ++ [question] }
    | some a => ∃ collaborator site, c.ask question =
        { c with collaborator, switch := { c.switch with site } }.finish question a := by
  obtain ⟨switch, tracker, collaborator, processing, due, questions, unfinished, intents, output⟩ :=
    c
  cases collaborator with
  | remote => rfl
  | scripted blocks analyses => cases question <;> exact ⟨_, switch.site, rfl⟩
  | service client outcomes => cases question <;> exact ⟨.service client outcomes, _, rfl⟩

/-! ### Tasks come and go on -/

/-- No task is in the background where no turn is due and there is no question. -/
theorem tasks_eq_nil_iff {c : Console} : c.tasks = [] ↔ c.due = [] ∧ c.questions = [] := by
  rw [tasks, List.append_eq_nil_iff, List.map_eq_nil_iff, List.map_eq_nil_iff]

/-- One more turn that is due is one more task. -/
theorem tasks_due_append {c after : Console} {t : Turn} (hdue : after.due = c.due ++ [t])
    (hquestions : after.questions = c.questions) : after.tasks.Perm (t.task :: c.tasks) := by
  rw [tasks, hdue, hquestions, List.map_append, List.append_assoc, tasks]
  exact List.perm_middle

/-- One more question is one more task. -/
theorem tasks_questions_append {c after : Console} {q : Question} (hdue : after.due = c.due)
    (hquestions : after.questions = c.questions ++ [q]) :
    after.tasks.Perm (.asking q :: c.tasks) := by
  rw [tasks, hdue, hquestions, List.map_append, ← List.append_assoc, tasks]
  exact List.perm_append_comm

/-- An item of a list that is singled out, and the others. -/
theorem map_eraseIdx_perm {α β : Type} {f : α → β} {items : List α} {place : Nat} {a : α}
    (h : items[place]? = some a) : (f a :: (items.eraseIdx place).map f).Perm (items.map f) := by
  obtain ⟨hplace, rfl⟩ := List.getElem?_eq_some_iff.mp h
  exact (List.getElem_cons_eraseIdx_perm hplace).map f

/-- A turn that is singled out is that of one of the tasks. -/
theorem tasks_eraseIdx_due {c : Console} {place : Nat} {t : Turn} (h : c.due[place]? = some t) :
    (t.task :: { c with due := c.due.eraseIdx place }.tasks).Perm c.tasks :=
  (map_eraseIdx_perm h).append_right _

/-- A question that is singled out is that of one of the tasks. -/
theorem tasks_eraseIdx_questions {c : Console} {place : Nat} {q : Question}
    (h : c.questions[place]? = some q) :
    (.asking q :: { c with questions := c.questions.eraseIdx place }.tasks).Perm c.tasks :=
  List.perm_middle.symm.trans ((map_eraseIdx_perm h).append_left _)

/-- A task that goes on with its answer is to end. -/
theorem finish_tasks (c : Console) (question : Question) (a : Answer) :
    (c.finish question a).tasks.Perm (.ending :: c.tasks) ∧
      (c.finish question a).unfinished = c.unfinished := by
  obtain ⟨failed, switch, processing, text, hfinish⟩ := c.exists_finish_eq question a
  rw [hfinish]
  exact ⟨tasks_due_append (t := .settle failed) rfl rfl, rfl⟩

/-- A task that asks waits for the answer, or has it at once and is to end. -/
theorem ask_tasks (c : Console) (question : Question) :
    (c.ask question).tasks.Perm (c.stageOf question :: c.tasks) ∧
      (c.ask question).unfinished = c.unfinished := by
  have hask := c.ask_eq question
  rw [stageOf]
  cases hanswer : c.answerOf? question with
  | none =>
    rw [hanswer] at hask
    rw [hask]
    exact ⟨tasks_questions_append rfl rfl, rfl⟩
  | some a =>
    rw [hanswer] at hask
    obtain ⟨collaborator, site, hask⟩ := hask
    rw [hask]
    exact finish_tasks _ question a

/-- A turn takes its task to the next stage, and a task that has ended is no longer counted. -/
theorem take_tasks (c : Console) (t : Turn) :
    (c.take t).tasks.Perm (c.stageAfter t ++ c.tasks) ∧
      (c.take t).unfinished = c.unfinished + (c.stageAfter t).length - 1 := by
  cases t with
  | start job => cases job <;> exact ask_tasks _ _
  | resume question a => exact finish_tasks _ _ _
  | settle failed => cases failed <;> exact ⟨.refl _, rfl⟩

/-- A line sets a task going, or leaves the tasks alone. -/
theorem handle_tasks (c : Console) (text : String) :
    (c.handle text).2.tasks.Perm ((c.jobOf? text).toList.map .starting ++ c.tasks) ∧
      (c.handle text).2.unfinished = c.unfinished + (c.jobOf? text).toList.length := by
  rw [handle_eq, jobOf?]
  cases kindOf text with
  | blank | leaving | clearing => exact ⟨.refl _, rfl⟩
  | request intent =>
    dsimp only
    split
    · exact ⟨.refl _, rfl⟩
    · exact ⟨tasks_due_append (t := .start (.apply intent)) rfl rfl, rfl⟩
  | analysis => exact ⟨tasks_due_append (t := .start .analyze) rfl rfl, rfl⟩
  | command =>
    dsimp only
    rw [command_eq]
    exact ⟨.refl _, rfl⟩

/-- A turn that is due takes its task to the next stage and leaves the other tasks alone. -/
theorem step_turn_tasks {c : Console} {place : Nat} {t : Turn} (h : c.due[place]? = some t) :
    ∃ others : List Task, c.tasks.Perm (t.task :: others) ∧
      (c.step (.turn place)).tasks.Perm (c.stageAfter t ++ others) ∧
      (c.step (.turn place)).unfinished = c.unfinished + (c.stageAfter t).length - 1 := by
  let aside : Console := { c with due := c.due.eraseIdx place }
  have hstep : c.step (.turn place) = aside.take t := by
    rw [step, h]
  rw [hstep]
  exact ⟨aside.tasks, (tasks_eraseIdx_due h).symm, aside.take_tasks t⟩

/-- A question that is answered takes its task to the next stage. -/
theorem step_answer_tasks {c : Console} {place : Nat} {q : Question}
    (h : c.questions[place]? = some q) (a : Answer) :
    ∃ others : List Task, c.tasks.Perm (.asking q :: others) ∧
      (c.step (.answer place a)).tasks.Perm (.answered q a :: others) ∧
      (c.step (.answer place a)).unfinished = c.unfinished := by
  let asked : Console := { c with questions := c.questions.eraseIdx place }
  have hstep : c.step (.answer place a) = { asked with due := c.due ++ [.resume q a] } := by
    rw [step, h]
  rw [hstep]
  exact ⟨asked.tasks, (tasks_eraseIdx_questions h).symm,
    tasks_due_append (t := .resume q a) rfl rfl, rfl⟩

/-- Nothing happens where no turn is due. -/
theorem step_turn_none {c : Console} {place : Nat} (h : c.due[place]? = none) :
    c.step (.turn place) = c := by
  rw [step, h]

/-- Nothing happens where there is no question. -/
theorem step_answer_none {c : Console} {place : Nat} (h : c.questions[place]? = none)
    (a : Answer) : c.step (.answer place a) = c := by
  rw [step, h]

/-! ### The count of tasks -/

/-- The tasks that are counted as not over are those in the background. -/
def Tallies (c : Console) : Prop :=
  c.unfinished = c.tasks.length

/-- Where there is no task, none is to be counted. -/
theorem tallies_of_tasks_eq_nil {c : Console} (h : c.tasks = []) (hcount : c.unfinished = 0) :
    c.Tallies := by
  rw [Tallies, h, hcount]
  rfl

/-- Whatever happens, the tasks are counted right. -/
theorem Tallies.step {c : Console} (h : c.Tallies) (e : Event) : (c.step e).Tallies := by
  rw [Tallies] at h ⊢
  cases e with
  | line text =>
    obtain ⟨htasks, hcount⟩ := c.handle_tasks text
    rw [step_line, hcount, htasks.length_eq, List.length_append, List.length_map, h, Nat.add_comm]
  | turn place =>
    cases ht : c.due[place]? with
    | none =>
      rw [step_turn_none ht]
      exact h
    | some t =>
      obtain ⟨others, hbefore, hafter, hcount⟩ := step_turn_tasks ht
      rw [hcount, h, hbefore.length_eq, hafter.length_eq, List.length_append, List.length_cons]
      omega
  | answer place a =>
    cases hq : c.questions[place]? with
    | none =>
      rw [step_answer_none hq]
      exact h
    | some q =>
      obtain ⟨others, hbefore, hafter, hcount⟩ := step_answer_tasks hq a
      rw [hcount, h, hbefore.length_eq, hafter.length_eq, List.length_cons, List.length_cons]

/-! ### What is left to do -/

/-- How many turns and answers a task needs at most until it is over. -/
def Task.rest : Task → Nat
  | .starting _ => 4
  | .asking _ => 3
  | .answered _ _ => 2
  | .ending => 1

/-- What is left to do for some tasks. -/
def restOf : List Task → Nat
  | [] => 0
  | t :: others => t.rest + restOf others

theorem restOf_append (a b : List Task) : restOf (a ++ b) = restOf a + restOf b := by
  induction a with
  | nil => exact (Nat.zero_add _).symm
  | cons t a ih => rw [List.cons_append, restOf, ih, restOf, Nat.add_assoc]

/-- The order of tasks is of no matter. -/
theorem restOf_perm {a b : List Task} (h : a.Perm b) : restOf a = restOf b := by
  induction h with
  | nil => rfl
  | cons t _ ih => rw [restOf, ih, restOf]
  | swap t u others => simp only [restOf, Nat.add_left_comm]
  | trans _ _ ih ih' => exact ih.trans ih'

/-- A turn leaves its task less to do. -/
theorem restOf_stageAfter_lt (c : Console) (t : Turn) : restOf (c.stageAfter t) < t.task.rest := by
  cases t with
  | start job =>
    rw [stageAfter, stageOf]
    cases c.answerOf? (c.questionOf job) with
    | none => exact (by decide : 3 < 4)
    | some a => exact (by decide : 1 < 4)
  | resume question a => exact (by decide : 1 < 2)
  | settle failed => exact (by decide : 0 < 1)

/-- A line leaves at most one more task to do. -/
theorem restOf_step_line_le (c : Console) (text : String) :
    restOf (c.step (.line text)).tasks ≤ restOf c.tasks + 4 := by
  rw [step_line, restOf_perm (c.handle_tasks text).1, restOf_append, Nat.add_comm]
  refine Nat.add_le_add_left ?_ _
  cases c.jobOf? text with
  | none => exact Nat.zero_le 4
  | some job => exact Nat.le_refl 4

/-- A turn that is due leaves less to do. -/
theorem restOf_step_turn_lt {c : Console} {place : Nat} {t : Turn} (h : c.due[place]? = some t) :
    restOf (c.step (.turn place)).tasks < restOf c.tasks := by
  obtain ⟨others, hbefore, hafter, _⟩ := step_turn_tasks h
  rw [restOf_perm hbefore, restOf_perm hafter, restOf_append, restOf]
  exact Nat.add_lt_add_right (c.restOf_stageAfter_lt t) _

/-- A question that is answered leaves less to do. -/
theorem restOf_step_answer_lt {c : Console} {place : Nat} {q : Question}
    (h : c.questions[place]? = some q) (a : Answer) :
    restOf (c.step (.answer place a)).tasks < restOf c.tasks := by
  obtain ⟨others, hbefore, hafter, _⟩ := step_answer_tasks h a
  rw [restOf_perm hbefore, restOf_perm hafter, restOf, restOf]
  exact Nat.add_lt_add_right (by decide : 2 < 3) _

end LeafSwitch.Console
