import LeafSwitch.Proofs.Console.Analyses
import LeafSwitch.Proofs.Console.Answered
import LeafSwitch.Proofs.Session.Alike
import LeafSwitch.Proofs.Text.Lines

/-!
# Runs in series

However the tasks of a run mix with the lines, the device becomes what it would have become in a
series of operations: the lines that the console leaves to the switch, in their order, and each
block applied as a whole, behind the line that has asked for it.
-/

namespace LeafSwitch

/-- Trimming a line does not change its command. -/
theorem Command.ofLine_trimmed (text : String) : ofLine (Text.trimmed text) = ofLine text := by
  rw [ofLine, Text.wordsOf_trimmed, ofLine]

/-- Trimming a line does not change what it makes of the device. -/
theorem Switch.interpret_trimmed_device (sw : Switch) (text : String) :
    (sw.interpret (Text.trimmed text)).2.device = (sw.interpret text).2.device := by
  rw [interpret_device_eq, interpret_device_eq, Command.ofLine_trimmed]

/-- The line of an operation, if it is one. -/
def Operation.line? : Operation → Option String
  | .line text => some text
  | .block _ _ | .update _ | .note _ | .sample _ => none

namespace Console

/-- Whether the console does nothing of its own about a line, except that the operator may leave. -/
def LineKind.isPlain : LineKind → Bool
  | .command | .leaving => true
  | .blank | .clearing | .request _ | .analysis => false

/-- The operation in the series that a deed comes to, if it does anything to the switch. -/
def Deed.operation? (tracker : Option Tracker) : Deed → Option Operation
  | .handled text => if (kindOf text).isPlain then some (.line text) else none
  | .applied intent block => some (.block tracker ⟨block, "gemini", some intent⟩)
  | .accepted _ | .refused _ | .asked _ | .answered _ _ => none

/-- The series of operations that deeds come to. -/
def series (tracker : Option Tracker) (history : List Deed) : List Operation :=
  history.filterMap (Deed.operation? tracker)

/-- The line at which the operator leaves is no command of the switch, and does nothing to it. -/
theorem interpret_of_leaving {text : String} (h : kindOf text = .leaving) (sw : Switch) :
    (sw.interpret text).2.device = sw.device := by
  have hline : Text.trimmed text = "exit" ∨ Text.trimmed text = "quit" := by
    rw [kindOf] at h
    split_ifs at h with _ hleave
    simpa using hleave
  rw [← sw.interpret_trimmed_device, Switch.interpret_device_eq]
  rcases hline with hexit | hquit
  · have hnothing : (Command.ofLine "exit").change? sw.device = none := rfl
    rw [hexit, hnothing]
  · have hnothing : (Command.ofLine "quit").change? sw.device = none := rfl
    rw [hquit, hnothing]

/-- What handling a line makes of the device, the switch makes of it if the line is left to it. -/
theorem handle_device (c : Console) (text : String) :
    (c.handle text).2.switch.device =
      if (kindOf text).isPlain then (c.switch.interpret text).2.device else c.switch.device := by
  rw [handle_eq]
  cases hkind : kindOf text with
  | blank | clearing | analysis => rfl
  | leaving => exact (interpret_of_leaving hkind c.switch).symm
  | request intent =>
    dsimp only
    split <;> rfl
  | command =>
    dsimp only
    rw [command_eq]
    exact c.switch.interpret_trimmed_device text

/-- The deeds of a line are its handling, or what becomes of its request. -/
theorem series_lineDeeds (tracker : Option Tracker) (c : Console) (text : String) :
    series tracker (c.lineDeeds text) = if (kindOf text).isPlain then [.line text] else [] := by
  rw [lineDeeds, intent?_eq]
  cases hkind : kindOf text with
  | request intent =>
    dsimp only
    split <;> rfl
  | blank | leaving | clearing | analysis | command =>
    simp only [series, List.filterMap_cons, Deed.operation?, hkind]
    rfl

/-- Deeds one after another come to a series one after another. -/
theorem series_append (tracker : Option Tracker) (a b : List Deed) :
    series tracker (a ++ b) = series tracker a ++ series tracker b :=
  List.filterMap_append

/-! ### The series keeps up with the console -/

/-- The series keeps up with a line. -/
theorem leadsTo_line {c : Console} (hd : c.switch.device.WellFormed) {s : Session}
    (hs : s.switch.device.Alike c.switch.device) (tracker : Option Tracker) (text : String) :
    s.LeadsTo (series tracker (c.lineDeeds text)) (c.handle text).2.switch.device := by
  rw [series_lineDeeds, handle_device]
  split
  · exact Session.leadsTo_line hs hd text
  · exact Session.leadsTo_nil hs

/-- What a deed that handles no line makes of a device, its operation makes of devices alike. -/
theorem Deed.Effect.leadsTo {tracker : Option Tracker} {d after : Device} {x : Deed}
    (h : x.Effect tracker d after) (hd : d.WellFormed) (hline : ∀ text, x ≠ .handled text)
    {s : Session} (hs : s.switch.device.Alike d) : s.LeadsTo (series tracker [x]) after := by
  cases x with
  | handled text => exact absurd rfl (hline text)
  | applied intent block =>
    obtain ⟨site, r, sw, happly, rfl⟩ := h
    exact Session.leadsTo_block happly hs hd
  | accepted | refused | asked | answered =>
    obtain rfl := h
    exact Session.leadsTo_nil hs

/-- No deed makes a device ill-formed. -/
theorem Deed.Effect.wellFormed {tracker : Option Tracker} {d after : Device} {x : Deed}
    (h : x.Effect tracker d after) (hd : d.WellFormed) : after.WellFormed := by
  cases x with
  | handled text =>
    rcases h with hsame | ⟨site, hinterpret⟩
    · rw [hsame]
      exact hd
    · rw [hinterpret]
      exact @Switch.interpret_wellFormed ⟨d, site⟩ hd _
  | applied intent block =>
    obtain ⟨site, r, sw, happly, rfl⟩ := h
    exact Switch.applyBlock_wellFormed happly hd
  | accepted | refused | asked | answered =>
    obtain rfl := h
    exact hd

/-- No deeds make a device ill-formed. -/
theorem Becomes.wellFormed {tracker : Option Tracker} {d after : Device} {history : List Deed}
    (h : Becomes tracker d history after) (hd : d.WellFormed) : after.WellFormed := by
  induction h with
  | nothing => exact hd
  | more _ heffect ih => exact heffect.wellFormed ih

/-- The series keeps up with deeds none of which handles a line. -/
theorem Becomes.leadsTo {tracker : Option Tracker} {d after : Device} {history : List Deed}
    (h : Becomes tracker d history after) (hd : d.WellFormed)
    (hlines : ∀ text, Deed.handled text ∉ history) {s : Session} (hs : s.switch.device.Alike d) :
    s.LeadsTo (series tracker history) after := by
  induction h with
  | nothing => exact Session.leadsTo_nil hs
  | more hbecomes heffect ih =>
    rw [series_append]
    refine (ih fun text hmem => hlines text (List.mem_append_left _ hmem)).append fun t ht => ?_
    refine heffect.leadsTo (hbecomes.wellFormed hd) (fun text hx => hlines text ?_) ht
    rw [hx]
    exact List.mem_append_right _ (List.mem_singleton_self _)

/-- A turn is told by its deeds. -/
theorem exists_proceeds_take {c : Console} (hd : c.switch.device.WellFormed) (t : Turn) :
    ∃ more, c.Proceeds (c.turnDeeds t) more (c.take t) := by
  cases ht : t.pending? with
  | none =>
    obtain ⟨hp, _, hdeeds⟩ := take_of_pending?_none hd ht
    rw [hdeeds]
    exact ⟨[], hp⟩
  | some p =>
    cases t with
    | start job =>
      cases job with
      | analyze => cases ht
      | apply intent =>
        have htake := take_start_apply hd intent
        rw [turnDeeds]
        cases hanswer : c.answerAtOnce? intent with
        | none =>
          rw [hanswer] at htake
          exact ⟨_, htake.1⟩
        | some a =>
          rw [hanswer] at htake
          exact ⟨_, htake.1⟩
    | resume question a =>
      cases question with
      | analysis logs => cases ht
      | block intent device => exact ⟨[], (finish_block hd intent device a).1⟩
    | settle failed => cases ht

/-- A turn handles no line. -/
theorem handled_notMem_turnDeeds (c : Console) (t : Turn) (text : String) :
    Deed.handled text ∉ c.turnDeeds t := by
  have hanswer : ∀ intent a, Deed.handled text ∉ answerDeeds intent a := by
    intro intent a
    cases a <;> simp [answerDeeds]
  cases t with
  | start job =>
    cases job with
    | analyze => exact List.not_mem_nil
    | apply intent =>
      rw [turnDeeds]
      cases c.answerAtOnce? intent with
      | none => simp
      | some a => simpa using hanswer intent a
  | resume question a =>
    cases question with
    | analysis logs => exact List.not_mem_nil
    | block intent device => exact hanswer intent a
  | settle failed => exact List.not_mem_nil

/-- The series keeps up with whatever happens. -/
theorem leadsTo_step {c : Console} (hd : c.switch.device.WellFormed) {s : Session}
    (hs : s.switch.device.Alike c.switch.device) (e : Event) :
    s.LeadsTo (series c.tracker (c.deeds e)) (c.step e).switch.device := by
  cases e with
  | line text =>
    rw [step_line]
    exact leadsTo_line hd hs c.tracker text
  | turn place =>
    rw [deeds]
    cases ht : c.due[place]? with
    | none =>
      rw [step_turn_none ht]
      exact Session.leadsTo_nil hs
    | some t =>
      rw [step, ht]
      let aside : Console := { c with due := c.due.eraseIdx place }
      obtain ⟨more, hp⟩ := exists_proceeds_take (c := aside) hd t
      exact hp.device.leadsTo hd (handled_notMem_turnDeeds aside t) hs
  | answer place a =>
    rw [step]
    cases c.questions[place]? <;> exact Session.leadsTo_nil hs

/-- The series keeps up with whatever happens, event by event. -/
theorem leadsTo_steps {tracker : Option Tracker} {d : Device} {history : List Deed}
    {served : List Request} {waiting : Option Pending} {c : Console}
    (h : Serves tracker d history served waiting c) {s : Session}
    (hs : s.switch.device.Alike c.switch.device) (events : List Event) :
    s.LeadsTo (series tracker (c.history events)) (c.steps events).switch.device := by
  induction events using List.reverseRecOn with
  | nil => exact Session.leadsTo_nil hs
  | append_singleton events e ih =>
    obtain ⟨_, _, hbefore⟩ := h.steps events
    rw [history_snoc, steps_snoc, series_append]
    refine ih.append fun t ht => ?_
    rw [← hbefore.tracker_eq]
    exact leadsTo_step hbefore.wellFormed ht e

/-- Deeds none of which handles a line come to no line of the series. -/
theorem series_lines_eq_nil {history : List Deed} (h : ∀ text, Deed.handled text ∉ history)
    (tracker : Option Tracker) : (series tracker history).filterMap Operation.line? = [] := by
  rw [List.filterMap_eq_nil_iff]
  intro o ho
  obtain ⟨x, hx, hoperation⟩ := List.mem_filterMap.mp ho
  cases x with
  | handled text => exact absurd hx (h text)
  | applied intent block =>
    obtain rfl := Option.some.inj hoperation
    rfl
  | accepted | refused | asked | answered => cases hoperation

/-- The lines of the series are those that are handled, in their order, but for those that the
console sees to itself. -/
theorem series_lines (tracker : Option Tracker) (c : Console) (events : List Event) :
    (series tracker (c.history events)).filterMap Operation.line? =
      (events.filterMap Event.line?).filter fun text => (kindOf text).isPlain := by
  induction events generalizing c with
  | nil => rfl
  | cons e rest ih =>
    rw [history, series_append, List.filterMap_append, ih]
    cases e with
    | line text =>
      have hline : (series tracker (c.deeds (.line text))).filterMap Operation.line? =
          [text].filter fun text => (kindOf text).isPlain := by
        rw [deeds, series_lineDeeds]
        cases hplain : (kindOf text).isPlain <;> simp [hplain, Operation.line?]
      rw [hline, ← List.filter_append]
      rfl
    | turn place =>
      have hnone : (series tracker (c.deeds (.turn place))).filterMap Operation.line? = [] := by
        apply series_lines_eq_nil
        intro text
        rw [deeds]
        cases c.due[place]? with
        | none => exact List.not_mem_nil
        | some t => exact c.handled_notMem_turnDeeds t text
      rw [hnone]
      rfl
    | answer place a => rfl

/-- The lines that want an analysis are told by their kind. -/
theorem flatMap_wanted (events : List Event) :
    events.flatMap wanted =
      (events.filterMap Event.line?).filter fun text => kindOf text = .analysis := by
  induction events with
  | nil => rfl
  | cons e rest ih =>
    rw [List.flatMap_cons, ih]
    cases e with
    | line text =>
      have hline : wanted (.line text) = [text].filter fun text => kindOf text = .analysis := by
        rw [wanted]
        cases hkind : kindOf text <;> simp [hkind]
      rw [hline, ← List.filter_append]
      rfl
    | turn place => rfl
    | answer place a => rfl

/-- A run over any lines, in which tasks go on and answers come in any order, is a run in series,
and drains.

The lines are handled in their order, and none behind the first one at which the operator leaves. At
any time the device is, up to the numbers and times of log entries, what a series of operations
makes of it: the lines handled that the console does not see to itself, in their order, and each
block applied as a whole. An analysis that is told is written right then, and stays written. Only so
many events make something happen, and where none does any more the run has returned, unless a line
without an answer has broken it off. It is not broken off if it begins with a device whose VLANs can
be written out and whose log has times within the calendar.

When it returns, all lines up to there have been handled, no task is in the background and the
console is not busy. The requests that have been accepted have run their courses, from the line to
the block that is applied, and each line that wants an analysis has got one answer, told once. -/
theorem Loop.runs_in_series {hostname : String} {interfaces : List Interface} {vlans : List Int}
    {logs : List LogEntry} {d : Device}
    (hd : Device.build hostname interfaces vlans logs = .ok d) (site : Site)
    (window : Telemetry.Window) (tracker : Option Tracker) (collaborator : Collaborator)
    (lines : List String) (events : List Loop.Event) :
    let begun := Loop.start (ofSwitch ⟨d, site⟩ tracker collaborator) lines
    let last := begun.steps events
    let happened := begun.trace events
    let history := begun.console.history happened
    begun.handled events <+: upToLeaving lines ∧
    (∃ serial : Session,
      Session.run ⟨⟨d, site⟩, window⟩ (series tracker history) = .ok serial ∧
      serial.switch.device.Alike last.console.switch.device) ∧
    (series tracker history).filterMap Operation.line? =
      (begun.handled events).filter (fun text => (kindOf text).isPlain) ∧
    (∀ before e after text, happened = before ++ e :: after →
      .ok text ∈ (begun.console.steps before).told e →
      ∃ more, last.console.output =
        (begun.console.steps before).output ++ (text ++ "\n") ++ more) ∧
    (begun.Lively events → events.length ≤ 5 * lines.length + 1) ∧
    ((∀ e, last.step e = last) ↔
      last.Returned ∨ ∃ cause, last.stage = .broken cause ∧ last.console.unfinished = 0) ∧
    (∀ cause, last.stage = .broken cause →
      (∃ before line after, happened = before ++ .line line :: after ∧
        ((begun.console.steps before).handle line).1 = .error cause) ∧
      ¬(d.Showable ∧ ∀ e ∈ logs, e.time.inRange = true)) ∧
    (last.Returned →
      begun.handled events = upToLeaving lines ∧
      last.console.due = [] ∧ last.console.questions = [] ∧ last.console.processing = false ∧
      (∃ requests : List Request,
        history.filter Deed.isRequest = requests.flatMap Request.course) ∧
      ((upToLeaving lines).filter fun text => kindOf text = .analysis).length =
        (begun.console.collect told happened).length ∧
      (begun.console.collect given happened).Perm (begun.console.collect told happened)) := by
  intro begun last happened history
  have hwf : d.WellFormed := Device.build_wellFormed hd
  have hstart : Serves tracker d [] [] none begun.console :=
    (@Serves.start ⟨d, site⟩ hwf tracker collaborator).put (welcome ++ "\n")
  have hlogs : d.logs = logs := by
    obtain ⟨_, rfl⟩ := Device.build_eq_ok_iff.mp hd
    rfl
  have htally : last.console.Tallies :=
    Loop.tallies_steps (tallies_of_tasks_eq_nil rfl rfl) events
  have hlast : last.console = begun.console.steps happened := begun.steps_console events
  have hhandled : begun.handled events ++ last.remaining = upToLeaving lines :=
    begun.handled_append_remaining events
  have hserial : Session.LeadsTo ⟨⟨d, site⟩, window⟩ (series tracker history)
      (begun.console.steps happened).switch.device := leadsTo_steps hstart (.refl d) happened
  refine ⟨⟨_, hhandled⟩, hlast ▸ hserial, series_lines tracker begun.console happened, ?_, ?_,
    (Loop.over_iff htally).symm.trans last.over_iff_returned_or, ?_, ?_⟩
  · intro before e after text hsplit htold
    have hrest : last.console = ((begun.console.steps before).step e).steps after := by
      rw [hlast, hsplit, Console.steps, List.foldl_append]
      rfl
    obtain ⟨more, hmore⟩ := writes_steps ((begun.console.steps before).step e) after
    exact ⟨more, by rw [hrest, hmore, output_of_told htold]⟩
  · exact fun hlively => hlively.length_le
  · intro cause hbroken
    refine ⟨Loop.exists_line_of_broken rfl hbroken, ?_⟩
    rintro ⟨hshowable, hinRange⟩
    have hdisplay : d.Displayable := ⟨hwf, hshowable, hlogs ▸ hinRange⟩
    exact Loop.stage_ne_broken hdisplay hstart lines events cause hbroken
  · intro hreturned
    have hnone := Loop.tasks_eq_nil htally hreturned.2
    obtain ⟨hdue, hquestions⟩ := tasks_eq_nil_iff.mp hnone
    have hall : begun.handled events = upToLeaving lines := by
      rw [← hhandled, Loop.remaining, hreturned.1]
      exact (List.append_nil _).symm
    -- No request is on its way, since each would be a task.
    obtain ⟨requests, waiting, hserves⟩ := hstart.steps happened
    rw [← hlast] at hserves
    have hwaiting : waiting = none := by
      have hpending := hserves.pending
      rw [pending_eq, hnone] at hpending
      exact Option.toList_eq_nil_iff.mp hpending.nil_eq.symm
    subst hwaiting
    have hstudies := studies_steps (c := begun.console) rfl happened
    rw [← hlast] at hstudies
    obtain ⟨hcount, hperm⟩ := hstudies.settled hnone
    refine ⟨hall, hdue, hquestions, hserves.processing, ⟨requests, ?_⟩, ?_, hperm⟩
    · exact hserves.courses.trans (List.append_nil _)
    · rw [← hall, ← hperm.length_eq, ← hcount, flatMap_wanted]
      rfl

/-- A run with two ports: a block, an analysis and a new name are wanted before the operator leaves,
and a line is left unread. -/
def Loop.twoPorts : Loop :=
  Loop.start Console.twoPorts
    ["ai shut et1", "analyze", "hostname leaf2", " exit ", "hostname leaf3"]

/-- The block is answered only when the operator has left. -/
def Loop.lateBlock : List Loop.Event :=
  [.read, .turn 0, .read, .turn 0, .answer 1 (.ok "All quiet."), .read, .turn 0, .read,
    .answer 0 (.ok "interface et1\nshutdown"), .turn 1, .turn 0, .turn 0]

/-- The device becomes like the one that gets its name first and the block then. -/
theorem Loop.runs_in_series_twoPorts :
    (Loop.twoPorts.steps Loop.lateBlock).Returned ∧
      Loop.twoPorts.handled Loop.lateBlock =
        ["ai shut et1", "analyze", "hostname leaf2", " exit "] ∧
      ∃ serial : Session,
        Session.run ⟨⟨Device.twoPorts, Site.quiet⟩, ⟨2, []⟩⟩
          [.line "hostname leaf2", .line " exit ",
            .block none ⟨"interface et1\nshutdown", "gemini", some "shut et1"⟩] = .ok serial ∧
        serial.switch.device.Alike (Loop.twoPorts.steps Loop.lateBlock).console.switch.device := by
  have hreturned : (Loop.twoPorts.steps Loop.lateBlock).Returned := ⟨rfl, rfl⟩
  obtain ⟨-, hserial, -, -, -, -, -, hdrained⟩ := Loop.runs_in_series Device.twoPorts_build
    Site.quiet ⟨2, []⟩ none .remote
    ["ai shut et1", "analyze", "hostname leaf2", " exit ", "hostname leaf3"] Loop.lateBlock
  refine ⟨hreturned, (hdrained hreturned).1.trans rfl, ?_⟩
  have hseries : series none (Loop.twoPorts.console.history
      (Loop.twoPorts.trace Loop.lateBlock)) = [.line "hostname leaf2", .line " exit ",
        .block none ⟨"interface et1\nshutdown", "gemini", some "shut et1"⟩] := by
    rfl
  rw [← hseries]
  exact hserial

end Console

end LeafSwitch
