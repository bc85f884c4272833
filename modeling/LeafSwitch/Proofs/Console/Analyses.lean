import LeafSwitch.Proofs.Console.Tasks
import Mathlib.Data.List.Induction

/-!
# Analyses

Each line that wants an analysis of the log sets a task going. The task asks once and goes on with
the answer once; an answer that is a text is written then. So however tasks and lines mix, what has
been wanted, answered and told differs only by the tasks that are still in the background. What is
written stays written.
-/

namespace LeafSwitch.Console

/-- The answers with which a turn tells an analysis. -/
def toldBy (c : Console) : Turn → List Answer
  | .start .analyze => (c.answerOf? (c.questionOf .analyze)).toList
  | .resume (.analysis _) a => [a]
  | .start (.apply _) | .resume (.block _ _) _ | .settle _ => []

/-- The answers that a turn gets for an analysis. -/
def givenTo (c : Console) : Turn → List Answer
  | .start .analyze => (c.answerOf? (c.questionOf .analyze)).toList
  | .start (.apply _) | .resume _ _ | .settle _ => []

/-- The answers to analyses that tasks go on with in an event. -/
def told (c : Console) : Event → List Answer
  | .turn place => (c.due[place]?.map c.toldBy).getD []
  | .line _ | .answer _ _ => []

/-- The answers to analyses that come in with an event. -/
def given (c : Console) : Event → List Answer
  | .turn place => (c.due[place]?.map c.givenTo).getD []
  | .answer place a =>
    match c.questions[place]? with
    | some (.analysis _) => [a]
    | _ => []
  | .line _ => []

/-- The lines of an event that want an analysis. -/
def wanted : Event → List String
  | .line text =>
    match kindOf text with
    | .analysis => [text]
    | _ => []
  | .turn _ | .answer _ _ => []

/-- What events come to, one after another. -/
def collect {α : Type} (f : Console → Event → List α) (c : Console) : List Event → List α
  | [] => []
  | e :: rest => f c e ++ (c.step e).collect f rest

/-- One more event comes to something more. -/
theorem collect_snoc {α : Type} (f : Console → Event → List α) (c : Console) (events : List Event)
    (e : Event) : c.collect f (events ++ [e]) = c.collect f events ++ f (c.steps events) e := by
  induction events generalizing c with
  | nil => exact List.append_nil _
  | cons x rest ih =>
    rw [List.cons_append, collect, ih, collect, List.append_assoc]
    rfl

/-- Whether a task is to ask for an analysis, or waits for it. -/
def Task.awaits : Task → Bool
  | .starting .analyze | .asking (.analysis _) => true
  | .starting (.apply _) | .asking (.block _ _) | .answered _ _ | .ending => false

/-- The analysis that a task is to tell. -/
def Task.analysis? : Task → Option Answer
  | .answered (.analysis _) a => some a
  | .starting _ | .asking _ | .answered (.block _ _) _ | .ending => none

/-- What has become of analyses: `lines` have wanted them, `answers` have come, and `tellings` have
been gone on with. -/
structure Studies (c : Console) (lines : List String) (answers tellings : List Answer) : Prop where
  /-- Each analysis that is wanted has been answered, or its task is to ask or waits. -/
  awaited : lines.length = answers.length + c.tasks.countP Task.awaits
  /-- Each answer has been told, or its task is to tell it. -/
  told : answers.Perm (tellings ++ c.tasks.filterMap Task.analysis?)

/-- Where some tasks make way for others, the analyses they are about are made up for. -/
theorem Studies.proceed {c after : Console} {lines lines' : List String}
    {answers answers' tellings tellings' : List Answer} {others : List Task}
    (h : c.Studies lines answers tellings) (gone come : List Task)
    (hgone : c.tasks.Perm (gone ++ others)) (hcome : after.tasks.Perm (come ++ others))
    (hawaited : lines'.length + gone.countP Task.awaits =
      answers'.length + come.countP Task.awaits)
    (htold : (gone.filterMap Task.analysis? ++ answers').Perm
      (tellings' ++ come.filterMap Task.analysis?)) :
    after.Studies (lines ++ lines') (answers ++ answers') (tellings ++ tellings') where
  awaited := by
    have hbefore := h.awaited
    rw [hgone.countP_eq, List.countP_append] at hbefore
    rw [hcome.countP_eq, List.countP_append, List.length_append, List.length_append]
    omega
  told := by
    have hbefore := (hgone.filterMap Task.analysis?).append_left tellings
    have hafter := (hcome.filterMap Task.analysis?).append_left (tellings ++ tellings')
    rw [List.filterMap_append] at hbefore hafter
    refine .trans ?_ hafter.symm
    let rest := others.filterMap Task.analysis?
    calc (answers ++ answers').Perm
          (tellings ++ (gone.filterMap Task.analysis? ++ rest) ++ answers') :=
        (h.told.trans hbefore).append_right answers'
      List.Perm _ (tellings ++ (gone.filterMap Task.analysis? ++ answers' ++ rest)) := by
        rw [List.append_assoc, List.append_assoc, List.append_assoc]
        exact (List.perm_append_comm.append_left _).append_left tellings
      List.Perm _ (tellings ++ (tellings' ++ come.filterMap Task.analysis? ++ rest)) :=
        (htold.append_right rest).append_left tellings
      _ = tellings ++ tellings' ++ (come.filterMap Task.analysis? ++ rest) := by
        rw [List.append_assoc, List.append_assoc]

/-- A line that wants an analysis sets the task for it going; other lines set no such task going. -/
theorem Studies.line {c : Console} {lines : List String} {answers tellings : List Answer}
    (h : c.Studies lines answers tellings) (text : String) :
    (c.step (.line text)).Studies (lines ++ wanted (.line text))
      (answers ++ c.given (.line text)) (tellings ++ c.told (.line text)) := by
  refine h.proceed [] _ (.refl _) (c.handle_tasks text).1 ?_ ?_
  · rw [jobOf?, wanted]
    cases kindOf text with
    | request intent =>
      dsimp only
      split <;> rfl
    | blank | leaving | clearing | analysis | command => rfl
  · cases c.jobOf? text <;> exact .refl _

/-- The next stage of a task that awaits an analysis awaits it, or has got it. -/
theorem awaits_stageAfter (c : Console) (t : Turn) :
    [t.task].countP Task.awaits = (c.givenTo t).length + (c.stageAfter t).countP Task.awaits := by
  cases t with
  | start job =>
    rw [stageAfter, stageOf]
    cases job with
    | apply intent => cases c.answerOf? (c.questionOf (.apply intent)) <;> rfl
    | analyze =>
      rw [givenTo]
      cases c.answerOf? (c.questionOf .analyze) <;> rfl
  | resume question a => cases question <;> rfl
  | settle failed => rfl

/-- The next stage of a task that is to tell an analysis has told it. -/
theorem analysis?_stageAfter (c : Console) (t : Turn) :
    ([t.task].filterMap Task.analysis? ++ c.givenTo t).Perm
      (c.toldBy t ++ (c.stageAfter t).filterMap Task.analysis?) := by
  cases t with
  | start job =>
    rw [stageAfter, stageOf]
    cases job with
    | apply intent => cases c.answerOf? (c.questionOf (.apply intent)) <;> exact .refl _
    | analyze =>
      rw [givenTo, toldBy]
      cases c.answerOf? (c.questionOf .analyze) <;> exact .refl _
  | resume question a => cases question <;> exact .refl _
  | settle failed => exact .refl _

/-- A turn tells an analysis, or gets the answer, for its own task. -/
theorem Studies.turn {c : Console} {lines : List String} {answers tellings : List Answer}
    (h : c.Studies lines answers tellings) (place : Nat) :
    (c.step (.turn place)).Studies (lines ++ wanted (.turn place))
      (answers ++ c.given (.turn place)) (tellings ++ c.told (.turn place)) := by
  rw [Console.given, Console.told]
  cases ht : c.due[place]? with
  | none =>
    rw [step_turn_none ht]
    exact h.proceed [] [] (.refl _) (.refl _) rfl (.refl _)
  | some t =>
    obtain ⟨others, hbefore, hafter, _⟩ := step_turn_tasks ht
    refine h.proceed [t.task] _ hbefore hafter ?_ ?_
    · exact (Nat.zero_add _).trans (c.awaits_stageAfter t)
    · exact c.analysis?_stageAfter t

/-- An answer that comes in is there for the task that has asked. -/
theorem Studies.answer {c : Console} {lines : List String} {answers tellings : List Answer}
    (h : c.Studies lines answers tellings) (place : Nat) (a : Answer) :
    (c.step (.answer place a)).Studies (lines ++ wanted (.answer place a))
      (answers ++ c.given (.answer place a)) (tellings ++ c.told (.answer place a)) := by
  rw [Console.given]
  cases hq : c.questions[place]? with
  | none =>
    rw [step_answer_none hq]
    exact h.proceed [] [] (.refl _) (.refl _) rfl (.refl _)
  | some q =>
    obtain ⟨others, hbefore, hafter, _⟩ := step_answer_tasks hq a
    refine h.proceed [.asking q] [.answered q a] hbefore hafter ?_ ?_
    · cases q <;> rfl
    · cases q <;> exact .refl _

/-- Whatever happens, analyses are made up for. -/
theorem Studies.step {c : Console} {lines : List String} {answers tellings : List Answer}
    (h : c.Studies lines answers tellings) (e : Event) :
    (c.step e).Studies (lines ++ wanted e) (answers ++ c.given e) (tellings ++ c.told e) := by
  cases e with
  | line text => exact h.line text
  | turn place => exact h.turn place
  | answer place a => exact h.answer place a

/-- From where no task is in the background, analyses are made up for whatever has happened. -/
theorem studies_steps {c : Console} (h : c.tasks = []) (events : List Event) :
    (c.steps events).Studies (events.flatMap wanted) (c.collect given events)
      (c.collect told events) := by
  induction events using List.reverseRecOn with
  | nil =>
    constructor
    · rw [steps, List.foldl_nil, h]
      rfl
    · rw [steps, List.foldl_nil, h]
      exact .refl _
  | append_singleton events e ih =>
    rw [steps_snoc, collect_snoc, collect_snoc, List.flatMap_append]
    exact (List.flatMap_singleton wanted e).symm ▸ ih.step e

/-- Once no task is in the background, each analysis that was wanted has been answered, and each
answer has been told. -/
theorem Studies.settled {c : Console} {lines : List String} {answers tellings : List Answer}
    (h : c.Studies lines answers tellings) (hnone : c.tasks = []) :
    lines.length = answers.length ∧ answers.Perm tellings := by
  have hawaited := h.awaited
  have htold := h.told
  rw [hnone] at hawaited htold
  rw [List.filterMap_nil, List.append_nil] at htold
  exact ⟨hawaited, htold⟩

/-! ### What is written -/

/-- A console that has written something more than another one, or nothing. -/
def Writes (c after : Console) : Prop :=
  ∃ text, after.output = c.output ++ text

theorem Writes.of_eq {c after : Console} (h : after.output = c.output) : c.Writes after :=
  ⟨"", by rw [h, String.append_empty]⟩

theorem Writes.trans {c middle after : Console} (h : c.Writes middle) (h' : middle.Writes after) :
    c.Writes after := by
  obtain ⟨text, htext⟩ := h
  obtain ⟨text', htext'⟩ := h'
  exact ⟨text ++ text', by rw [htext', htext, String.append_assoc]⟩

theorem writes_finish (c : Console) (question : Question) (a : Answer) :
    c.Writes (c.finish question a) := by
  obtain ⟨failed, switch, processing, text, hfinish⟩ := c.exists_finish_eq question a
  exact ⟨text, by rw [hfinish]; rfl⟩

theorem writes_ask (c : Console) (question : Question) : c.Writes (c.ask question) := by
  have hask := c.ask_eq question
  cases hanswer : c.answerOf? question with
  | none =>
    rw [hanswer] at hask
    exact .of_eq (by rw [hask])
  | some a =>
    rw [hanswer] at hask
    obtain ⟨collaborator, site, hask⟩ := hask
    rw [hask]
    exact writes_finish { c with collaborator, switch := { c.switch with site } } question a

theorem writes_take (c : Console) (t : Turn) : c.Writes (c.take t) := by
  cases t with
  | start job =>
    cases job with
    | analyze => exact c.writes_ask _
    | apply intent => exact .trans ⟨_, rfl⟩ (writes_ask _ _)
  | resume question a => exact c.writes_finish question a
  | settle failed => cases failed <;> exact .of_eq rfl

theorem writes_command (c : Console) (line : String) : c.Writes (c.command line).2 := by
  rw [command]
  obtain ⟨answer, switch⟩ := c.switch.interpret line
  cases answer with
  | error cause => exact .of_eq rfl
  | ok text =>
    dsimp only
    split
    · exact .of_eq rfl
    · exact ⟨_, rfl⟩

theorem writes_handle (c : Console) (text : String) : c.Writes (c.handle text).2 := by
  rw [handle_eq]
  cases kindOf text with
  | blank | leaving => exact .of_eq rfl
  | clearing | analysis => exact ⟨_, rfl⟩
  | request intent =>
    dsimp only
    split
    · exact ⟨_, rfl⟩
    · exact .of_eq rfl
  | command =>
    exact c.writes_command _

/-- What is written stays written. -/
theorem writes_step (c : Console) (e : Event) : c.Writes (c.step e) := by
  cases e with
  | line text => exact c.writes_handle text
  | turn place =>
    rw [step]
    cases c.due[place]? with
    | none => exact .of_eq rfl
    | some t => exact writes_take { c with due := c.due.eraseIdx place } t
  | answer place a =>
    rw [step]
    cases c.questions[place]? <;> exact .of_eq rfl

/-- What is written stays written, whatever happens. -/
theorem writes_steps (c : Console) (events : List Event) : c.Writes (c.steps events) := by
  induction events using List.reverseRecOn with
  | nil => exact .of_eq rfl
  | append_singleton before e ih =>
    rw [steps_snoc]
    exact ih.trans (writes_step _ e)

/-- An analysis that a turn tells is written, and nothing else is. -/
theorem output_take_of_toldBy {c : Console} {t : Turn} {text : String}
    (h : .ok text ∈ c.toldBy t) : (c.take t).output = c.output ++ (text ++ "\n") := by
  cases t with
  | start job =>
    cases job with
    | apply intent => exact absurd h List.not_mem_nil
    | analyze =>
      -- The collaborator has answered at once.
      have hanswer : c.answerOf? (.analysis c.switch.device.logs) = some (.ok text) :=
        Option.mem_toList.mp h
      have hask := c.ask_eq (.analysis c.switch.device.logs)
      rw [hanswer] at hask
      obtain ⟨collaborator, site, hask⟩ := hask
      have htake : c.take (.start .analyze) = c.ask (.analysis c.switch.device.logs) := rfl
      rw [htake, hask]
      rfl
  | resume question a =>
    cases question with
    | block intent device => exact absurd h List.not_mem_nil
    | analysis logs =>
      obtain rfl := List.mem_singleton.mp h
      rfl
  | settle failed => exact absurd h List.not_mem_nil

/-- An analysis that is told is written, and nothing else is. -/
theorem output_of_told {c : Console} {e : Event} {text : String} (h : .ok text ∈ c.told e) :
    (c.step e).output = c.output ++ (text ++ "\n") := by
  cases e with
  | line line => exact absurd h List.not_mem_nil
  | answer place a => exact absurd h List.not_mem_nil
  | turn place =>
    rw [told] at h
    rw [step]
    cases ht : c.due[place]? with
    | none =>
      rw [ht] at h
      exact absurd h List.not_mem_nil
    | some t =>
      rw [ht] at h
      exact output_take_of_toldBy (c := { c with due := c.due.eraseIdx place }) h

end LeafSwitch.Console
