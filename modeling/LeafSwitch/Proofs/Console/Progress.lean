import LeafSwitch.Proofs.Block.Applied
import LeafSwitch.Proofs.Console.Tasks
import LeafSwitch.Proofs.Session.Run

/-!
# How a console goes on

Of what a console does, four things count: the requests for a block that are on their way, the
intents for which a block has been asked, what becomes of the device, and who files applied blocks.
Whatever a console does in one piece is told by its deeds and by the requests it sets on their way.
-/

namespace LeafSwitch.Console

/-- A request for a block that is on its way. -/
inductive Pending where
  /-- It has been accepted, and its task has not begun. -/
  | accepted (intent : String)
  /-- The block has been asked for, and the task has not gone on with the answer. -/
  | asked (intent : String)
  deriving DecidableEq, Repr

/-- The request that a turn is about, if it is about one. -/
def Turn.pending? : Turn → Option Pending
  | .start (.apply intent) => some (.accepted intent)
  | .resume (.block intent _) _ => some (.asked intent)
  | _ => none

/-- The request that a question is about, if it is about one. -/
def Question.pending? : Question → Option Pending
  | .block intent _ => some (.asked intent)
  | .analysis _ => none

/-- The requests that are on their way. -/
def pending (c : Console) : List Pending :=
  c.due.filterMap Turn.pending? ++ c.questions.filterMap Question.pending?

/-- The request that a task is for, if it is for one. -/
def Task.pending? : Task → Option Pending
  | .starting (.apply intent) => some (.accepted intent)
  | .asking question | .answered question _ => question.pending?
  | .starting .analyze | .ending => none

/-- A turn is about the request that its task is for. -/
theorem Turn.pending?_eq (t : Turn) : t.pending? = t.task.pending? := by
  cases t with
  | start job => cases job <;> rfl
  | resume question a => cases question <;> rfl
  | settle failed => rfl

/-- The requests on their way are those that the tasks in the background are for. -/
theorem pending_eq (c : Console) : c.pending = c.tasks.filterMap Task.pending? := by
  have hdue : c.due.filterMap Turn.pending? = (c.due.map Turn.task).filterMap Task.pending? := by
    rw [List.filterMap_map]
    exact List.filterMap_congr fun t _ => t.pending?_eq
  have hquestions : c.questions.filterMap Question.pending? =
      (c.questions.map Task.asking).filterMap Task.pending? := by
    rw [List.filterMap_map]
    rfl
  rw [pending, tasks, List.filterMap_append, hdue, hquestions]

/-- The requests on their way are found with the turns that are due and the questions. -/
theorem pending_congr {c after : Console} (hdue : after.due = c.due)
    (hquestions : after.questions = c.questions) : after.pending.Perm c.pending := by
  rw [pending, hdue, hquestions, pending]

/-- One more task may be for one more request. -/
theorem pending_of_tasks {c after : Console} {t : Task} (h : after.tasks.Perm (t :: c.tasks)) :
    after.pending.Perm (t.pending?.toList ++ c.pending) := by
  have hperm := h.filterMap Task.pending?
  rw [List.filterMap_cons] at hperm
  rw [pending_eq, pending_eq]
  cases ht : t.pending? with
  | none =>
    rw [ht] at hperm
    exact hperm
  | some p =>
    rw [ht] at hperm
    exact hperm

/-- One more turn that is due may be about one more request. -/
theorem pending_due_append {c after : Console} {t : Turn} (hdue : after.due = c.due ++ [t])
    (hquestions : after.questions = c.questions) :
    after.pending.Perm (t.pending?.toList ++ c.pending) := by
  rw [t.pending?_eq]
  exact pending_of_tasks (tasks_due_append hdue hquestions)

/-- One more question may be about one more request. -/
theorem pending_questions_append {c after : Console} {q : Question}
    (hdue : after.due = c.due) (hquestions : after.questions = c.questions ++ [q]) :
    after.pending.Perm (q.pending?.toList ++ c.pending) :=
  pending_of_tasks (tasks_questions_append hdue hquestions)

/-- A turn that is singled out is about one of the requests on their way, or about none. -/
theorem pending_eraseIdx_due {c : Console} {place : Nat} {t : Turn}
    (h : c.due[place]? = some t) :
    (t.pending?.toList ++ { c with due := c.due.eraseIdx place }.pending).Perm c.pending := by
  rw [t.pending?_eq]
  exact (pending_of_tasks (tasks_eraseIdx_due h).symm).symm

/-- A question that is singled out is about one of the requests on their way, or about none. -/
theorem pending_eraseIdx_questions {c : Console} {place : Nat} {q : Question}
    (h : c.questions[place]? = some q) :
    (q.pending?.toList ++ { c with questions := c.questions.eraseIdx place }.pending).Perm
      c.pending :=
  (pending_of_tasks (tasks_eraseIdx_questions h).symm).symm

/-- The intent for which a deed asks for a block. -/
def Deed.asked? : Deed → Option String
  | .asked intent => some intent
  | _ => none

/-- What a deed makes of a device: a block is applied by one update, a line is left to the switch or
to the console, and nothing else changes a device. -/
def Deed.Effect (tracker : Option Tracker) (d : Device) : Deed → Device → Prop
  | .applied intent block, after => ∃ site r sw,
      Switch.applyBlock ⟨d, site⟩ tracker ⟨block, "gemini", some intent⟩ = .ok (r, sw) ∧
        after = sw.device
  | .handled text, after =>
    after = d ∨ ∃ site, after = (Switch.interpret ⟨d, site⟩ (Text.trimmed text)).2.device
  | _, after => after = d

/-- What deeds make of a device, one after another. -/
inductive Becomes (tracker : Option Tracker) (d : Device) : List Deed → Device → Prop where
  /-- Without deeds a device stays as it is. -/
  | nothing : Becomes tracker d [] d
  /-- One more deed. -/
  | more {history : List Deed} {middle after : Device} {x : Deed} :
    Becomes tracker d history middle → x.Effect tracker middle after →
      Becomes tracker d (history ++ [x]) after

/-- What deeds make of a device, more deeds go on with. -/
theorem Becomes.trans {tracker : Option Tracker} {d e f : Device} {a b : List Deed}
    (h : Becomes tracker d a e) (h' : Becomes tracker e b f) : Becomes tracker d (a ++ b) f := by
  induction h' with
  | nothing =>
    rw [List.append_nil]
    exact h
  | more _ hx ih =>
    rw [← List.append_assoc]
    exact .more ih hx

/-- A single deed. -/
theorem Becomes.single {tracker : Option Tracker} {d e : Device} {x : Deed}
    (h : x.Effect tracker d e) : Becomes tracker d [x] e :=
  .more .nothing h

/-- A console goes on by some deeds and sets some requests on their way. -/
structure Proceeds (c : Console) (done : List Deed) (more : List Pending) (after : Console) :
    Prop where
  /-- The same one files applied blocks. -/
  tracker : after.tracker = c.tracker
  /-- The requests on their way are those of before and the new ones. -/
  pending : after.pending.Perm (more ++ c.pending)
  /-- Blocks are asked for by the deeds alone. -/
  intents : after.intents = c.intents ++ done.filterMap Deed.asked?
  /-- The device becomes what the deeds make of it. -/
  device : Becomes c.tracker c.switch.device done after.switch.device
  /-- The device stays well-formed. -/
  wellFormed : after.switch.device.WellFormed

/-- A console that is about the same requests, and has the same device, has done nothing that
counts. -/
theorem Proceeds.still {c after : Console} (hd : c.switch.device.WellFormed)
    (htracker : after.tracker = c.tracker) (hpending : after.pending.Perm c.pending)
    (hintents : after.intents = c.intents) (hdevice : after.switch.device = c.switch.device) :
    c.Proceeds [] [] after where
  tracker := htracker
  pending := hpending
  intents := by rw [hintents, List.filterMap_nil, List.append_nil]
  device := by
    rw [hdevice]
    exact .nothing
  wellFormed := by
    rw [hdevice]
    exact hd

/-- Going on twice is going on by the deeds of both. -/
theorem Proceeds.trans {c middle after : Console} {done done' : List Deed}
    {more more' : List Pending} (h : c.Proceeds done more middle)
    (h' : middle.Proceeds done' more' after) :
    c.Proceeds (done ++ done') (more' ++ more) after where
  tracker := h'.tracker.trans h.tracker
  pending := by
    rw [List.append_assoc]
    exact h'.pending.trans (h.pending.append_left more')
  intents := by rw [h'.intents, h.intents, List.filterMap_append, List.append_assoc]
  device := by
    have hafter := h'.device
    rw [h.tracker] at hafter
    exact h.device.trans hafter
  wellFormed := h'.wellFormed

/-- Writing does nothing that counts. -/
theorem Proceeds.write {c : Console} (hd : c.switch.device.WellFormed) (text : String) :
    c.Proceeds [] [] (c.write text) :=
  .still hd rfl (.refl _) rfl rfl

/-- A block is applied once, by the one operation for that, and what is told about it is written. -/
theorem exists_applyBlock {c : Console} (hd : c.switch.device.WellFormed)
    (intent block : String) :
    ∃ r switch output,
      c.switch.applyBlock c.tracker ⟨block, "gemini", some intent⟩ = .ok (r, switch) ∧
      c.applyBlock intent block = (false, { c with switch, output }) ∧
      switch.device.WellFormed := by
  obtain ⟨_, t, r, switch, _, happly, happlies⟩ :=
    Switch.exists_applyBlock hd c.tracker ⟨block, "gemini", some intent⟩
  have hconsole := c.applyBlock_eq intent block
  rw [happly] at hconsole
  exact ⟨r, switch, _, happly, hconsole, happlies.wellFormed hd⟩

/-- A task that has its block applies it at once; one that has a failure applies nothing. Either way
its request is no longer on its way. -/
theorem finish_block {c : Console} (hd : c.switch.device.WellFormed) (intent : String)
    (device : Device) (a : Answer) :
    c.Proceeds (answerDeeds intent a) [] (c.finish (.block intent device) a) ∧
      (c.finish (.block intent device) a).processing = false := by
  cases a with
  | error text =>
    have hpending : (c.finish (.block intent device) (.error text)).pending.Perm c.pending :=
      pending_due_append (t := .settle true) rfl rfl
    exact ⟨⟨rfl, hpending, (List.append_nil _).symm, .single rfl, hd⟩, rfl⟩
  | ok block =>
    obtain ⟨r, switch, output, happly, hconsole, hwf⟩ :=
      exists_applyBlock (c := { c with processing := false }) hd intent block
    have hfinish : c.finish (.block intent device) (.ok block) =
        { c with
          switch
          processing := false
          due := c.due ++ [.settle false]
          output } := by
      rw [finish]
      simp only [hconsole]
    have hanswered : Becomes c.tracker c.switch.device [.answered intent (.ok block)]
        c.switch.device := .single rfl
    rw [hfinish]
    refine ⟨⟨rfl, ?_, (List.append_nil _).symm, ?_, hwf⟩, rfl⟩
    · exact pending_due_append (t := .settle false) rfl rfl
    · exact .more hanswered ⟨c.switch.site, r, switch, happly, rfl⟩

/-- A task that has its analysis writes it, or fails. -/
theorem finish_analysis {c : Console} (hd : c.switch.device.WellFormed) (logs : List LogEntry)
    (a : Answer) :
    c.Proceeds [] [] (c.finish (.analysis logs) a) ∧
      (c.finish (.analysis logs) a).processing = c.processing := by
  cases a with
  | error text =>
    exact ⟨.still hd rfl (pending_due_append (t := .settle true) rfl rfl) rfl rfl, rfl⟩
  | ok text =>
    exact ⟨.still hd rfl (pending_due_append (t := .settle false) rfl rfl) rfl rfl, rfl⟩

/-- Having another collaborator, or another site, is nothing that counts. -/
theorem Proceeds.moved {c : Console} (hd : c.switch.device.WellFormed)
    (collaborator : Collaborator) (site : Site) :
    c.Proceeds [] [] { c with collaborator, switch := { c.switch with site } } :=
  .still hd rfl (.refl _) rfl rfl

/-- A request whose block is asked for waits for the answer, or goes on with it at once. -/
theorem ask_block {c : Console} (hd : c.switch.device.WellFormed) (intent : String) :
    match c.answerAtOnce? intent with
    | none =>
      c.Proceeds [] [.asked intent] (c.ask (.block intent c.switch.device)) ∧
        (c.ask (.block intent c.switch.device)).processing = c.processing
    | some a =>
      c.Proceeds (answerDeeds intent a) [] (c.ask (.block intent c.switch.device)) ∧
        (c.ask (.block intent c.switch.device)).processing = false := by
  have hsame : c.answerAtOnce? intent = c.answerOf? (.block intent c.switch.device) := by
    unfold answerAtOnce? answerOf?
    cases c.collaborator <;> rfl
  have hask := c.ask_eq (.block intent c.switch.device)
  rw [hsame]
  cases hanswer : c.answerOf? (.block intent c.switch.device) with
  | none =>
    rw [hanswer] at hask
    rw [hask]
    refine ⟨⟨rfl, ?_, (List.append_nil _).symm, .nothing, hd⟩, rfl⟩
    exact pending_questions_append (q := .block intent c.switch.device) rfl rfl
  | some a =>
    rw [hanswer] at hask
    obtain ⟨collaborator, site, hask⟩ := hask
    have hmoved := Proceeds.moved hd collaborator site
    obtain ⟨hfinish, hprocessing⟩ := finish_block hmoved.wellFormed intent c.switch.device a
    rw [hask]
    exact ⟨hmoved.trans hfinish, hprocessing⟩

/-- An analysis that is asked for is no request for a block. -/
theorem ask_analysis {c : Console} (hd : c.switch.device.WellFormed) (logs : List LogEntry) :
    c.Proceeds [] [] (c.ask (.analysis logs)) ∧
      (c.ask (.analysis logs)).processing = c.processing := by
  have hask := c.ask_eq (.analysis logs)
  cases hanswer : c.answerOf? (.analysis logs) with
  | none =>
    rw [hanswer] at hask
    rw [hask]
    refine ⟨.still hd rfl ?_ rfl rfl, rfl⟩
    exact pending_questions_append (q := .analysis logs) rfl rfl
  | some a =>
    rw [hanswer] at hask
    obtain ⟨collaborator, site, hask⟩ := hask
    have hmoved := Proceeds.moved hd collaborator site
    obtain ⟨hfinish, hprocessing⟩ := finish_analysis hmoved.wellFormed logs a
    rw [hask]
    exact ⟨hmoved.trans hfinish, hprocessing⟩

/-- A request that begins asks for its block, and waits for the answer or goes on with it at
once. -/
theorem take_start_apply {c : Console} (hd : c.switch.device.WellFormed) (intent : String) :
    match c.answerAtOnce? intent with
    | none =>
      c.Proceeds [.asked intent] [.asked intent] (c.take (.start (.apply intent))) ∧
        (c.take (.start (.apply intent))).processing = true
    | some a =>
      c.Proceeds (.asked intent :: answerDeeds intent a) [] (c.take (.start (.apply intent))) ∧
        (c.take (.start (.apply intent))).processing = false := by
  let begun := { c with processing := true, intents := c.intents ++ [intent] }.write
    "Analyzing intent with Gemini AI..."
  have hbegun : c.Proceeds [.asked intent] [] begun :=
    ⟨rfl, .refl _, rfl, .single rfl, hd⟩
  have hask := ask_block (c := begun) hd intent
  have hsame : begun.answerAtOnce? intent = c.answerAtOnce? intent := rfl
  rw [hsame] at hask
  cases hanswer : c.answerAtOnce? intent with
  | none =>
    rw [hanswer] at hask
    exact ⟨hbegun.trans hask.1, hask.2⟩
  | some a =>
    rw [hanswer] at hask
    exact ⟨hbegun.trans hask.1, hask.2⟩

/-- A turn that is about no request does nothing that counts. -/
theorem take_of_pending?_none {c : Console} (hd : c.switch.device.WellFormed) {t : Turn}
    (ht : t.pending? = none) :
    c.Proceeds [] [] (c.take t) ∧ (c.take t).processing = c.processing ∧ c.turnDeeds t = [] := by
  cases t with
  | start job =>
    cases job with
    | apply intent => nomatch ht
    | analyze => exact ⟨(ask_analysis hd _).1, (ask_analysis hd _).2, rfl⟩
  | resume question a =>
    cases question with
    | block intent device => nomatch ht
    | analysis logs => exact ⟨(finish_analysis hd logs a).1, (finish_analysis hd logs a).2, rfl⟩
  | settle failed =>
    cases failed with
    | true => exact ⟨.still hd rfl (.refl _) rfl rfl, rfl, rfl⟩
    | false => exact ⟨.still hd rfl (.refl _) rfl rfl, rfl, rfl⟩

/-- A line that asks for a block is refused while a request is under way, and otherwise its request
is set on its way. -/
theorem handle_of_intent? {c : Console} {text intent : String} (h : intent? text = some intent) :
    (c.handle text).2 =
      if c.processing then c.write "% AI request already in progress"
      else { c with processing := true }.spawn (.apply intent) := by
  rw [handle_eq, kindOf_eq_request_iff.mpr h]

/-- A line that asks for no block leaves requests alone. -/
theorem handle_of_intent?_none {c : Console} (hd : c.switch.device.WellFormed) {text : String}
    (h : intent? text = none) :
    c.Proceeds [.handled text] [] (c.handle text).2 ∧
      (c.handle text).2.processing = c.processing := by
  have hleft {after : Console} (hp : c.Proceeds [] [] after)
      (hdevice : after.switch.device = c.switch.device) : c.Proceeds [.handled text] [] after :=
    ⟨hp.tracker, hp.pending, hp.intents, .single (Or.inl hdevice), hp.wellFormed⟩
  rw [handle_eq]
  cases hkind : kindOf text with
  | blank | leaving => exact ⟨hleft (.still hd rfl (.refl _) rfl rfl) rfl, rfl⟩
  | clearing => exact ⟨hleft (.still hd rfl (.refl _) rfl rfl) rfl, rfl⟩
  | request intent =>
    rw [kindOf_eq_request_iff.mp hkind] at h
    cases h
  | analysis =>
    refine ⟨hleft (.still hd rfl ?_ rfl rfl) rfl, rfl⟩
    exact pending_due_append (t := .start .analyze) rfl rfl
  | command =>
    have hdevice : Becomes c.tracker c.switch.device [.handled text]
        (c.switch.interpret (Text.trimmed text)).2.device := .single (Or.inr ⟨c.switch.site, rfl⟩)
    rw [command_eq]
    exact ⟨⟨rfl, pending_congr rfl rfl, (List.append_nil _).symm, hdevice,
      Switch.interpret_wellFormed hd _⟩, rfl⟩

end LeafSwitch.Console
