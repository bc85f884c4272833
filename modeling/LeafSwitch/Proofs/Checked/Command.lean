import LeafSwitch.Command
import LeafSwitch.Proofs.Checked.Fault

/-!
# Commands in checked steps

A line is cut into words, the first of which names the command. A command asks for the words behind
it one by one, and answers with a text, or with nothing where there is no such command after all. A
line without an answer leaves the switch as it is but for the journal. Carrying out lines in checked
steps agrees with carrying them out, and the only steps that may be missing are those that write out
VLANs and times. -/

namespace LeafSwitch.Checked

/-- The item of a list at an index, where there are so many; nothing is asked for where not. -/
def itemWithin {α : Type} (items : List α) (index : Nat) : Except Fault (Option α) :=
  if items.length > index then (item items index).map some else .ok none

/-- Show what the first word asks for. -/
def showCommand (d : Device) (args : List String) : Except Fault String := do
  let target ← itemWithin args 0
  if target = some "interfaces" then return Command.table d
  else if target = some "vlan" then
    let texts ← numbers d.vlans
    return "VLANs: " ++ Text.join ", " texts
  else if target = some "version" then return Command.versionText
  else if target = some "log" || target = some "logging" then
    let lines ← entries (d.recent Command.logShown)
    return Text.join "\n" lines
  else return "% Invalid input detected at marker"

/-- Put the interface that a text refers to into a state. -/
def setStatus (sw : Switch) (ref : Option String) (status : Status) (severity : Severity) :
    Switch :=
  match sw.device.find? ref with
  | none =>
    { sw with
      site := sw.site.report (.debug Switch.commandChannel
        ("No interface matches " ++ Text.quotedOption ref)) }
  | some i =>
    sw.perform
      { hostname := none
        interfaces := [(i.id, { i with status })]
        vlans := []
        notices := [⟨severity, "NbInterface",
          "Interface " ++ i.name ++ " changed state to " ++ status.keyword⟩] }

/-- Take an interface out of service. -/
def shutdownCommand (sw : Switch) (args : List String) : Except Fault Switch := do
  let ref ← itemWithin args 0
  return setStatus sw ref .adminDown .warning

/-- Bring an interface into service, where the first word asks for that. -/
def noCommand (sw : Switch) (args : List String) : Except Fault (Option Switch) :=
  if args.take 1 = ["shutdown"] then do
    let ref ← itemWithin args 1
    return some (setStatus sw ref .up .info)
  else .ok none

/-- Name the switch, where there is a name. -/
def hostnameCommand (sw : Switch) (args : List String) : Except Fault (Option Switch) :=
  if args.isEmpty then .ok none
  else do
    let name ← item args 0
    return some (sw.perform
      { hostname := some name
        interfaces := []
        vlans := []
        notices := [⟨.info, "System", "Hostname changed to " ++ name⟩] })

/-- Carry out the command that a word in small letters names. -/
def execute (sw : Switch) (word : String) (args : List String) :
    Except Fault (Option String × Switch) :=
  if word = "show" then do
    let text ← showCommand sw.device args
    return (some text, sw)
  else if word = "interface" || word = "int" then
    .ok (some
      "% Incomplete command. (Simulation Note: Use 'ai <intent>' for complex config changes)", sw)
  else if word = "shutdown" then do
    let after ← shutdownCommand sw args
    return (some "", after)
  else if word = "help" || word = "?" then .ok (some Command.helpText, sw)
  else if word = "no" then do
    let after ← noCommand sw args
    return (after.map fun _ => "", after.getD sw)
  else if word = "hostname" then do
    let after ← hostnameCommand sw args
    return (after.map fun _ => "", after.getD sw)
  else .ok (none, sw)

/-- Carry out the command on a line, where no line is an empty one. -/
def interpret (sw : Switch) (line : Option String) : Except Fault String × Switch :=
  let (start, site) := sw.site.tick
  let timed (after : Switch) (failure : Option String) : Switch :=
    { after with site := after.site.finish "interpret" sw.device.hostname start failure [] }
  let parts := Text.wordsOf (line.getD "")
  if parts.isEmpty then (.ok "", timed { sw with site } none)
  else
    match item parts 0 with
    | .error fault => (.error fault, timed { sw with site } fault.message)
    | .ok first =>
      let word := Text.lowered first
      let args := parts.drop 1
      let told := { sw with site := site.report (.debug Switch.commandChannel
        ("interpret: cmd=" ++ Text.quoted word ++ " args=" ++ Text.quotedList args)) }
      match execute told word args with
      | .error fault => (.error fault, timed told fault.message)
      | .ok (output, after) =>
        (.ok (output.getD ("% Unknown command: " ++ word)), timed after none)

/-- A word that is asked for within bounds is there. -/
theorem itemWithin_eq {α : Type} (items : List α) (index : Nat) :
    itemWithin items index = .ok items[index]? := by
  rw [itemWithin, item]
  by_cases h : items.length > index
  · rw [if_pos h, List.getElem?_eq_getElem h]
    rfl
  · rw [if_neg h, List.getElem?_eq_none (Nat.not_lt.mp h)]

/-- The details for the journal about references of a command that fit no interface. -/
def misses (d : Device) : Command → List String
  | .setStatus ref _ _ =>
    if (d.find? ref).isNone then ["No interface matches " ++ Text.quotedOption ref] else []
  | _ => []

/-- A switch after a command, with details about it in the journal. -/
def executed (sw : Switch) (c : Command) : Switch :=
  Switch.execute
    { sw with
      site := sw.site.reportAll ((misses sw.device c).map (.debug Switch.commandChannel)) } c

/-- Reporting nothing changes nothing. -/
theorem reportAll_nil (s : Site) : s.reportAll [] = s := by
  rw [Site.reportAll, List.append_nil]

/-- Records are reported one after another. -/
theorem reportAll_cons (s : Site) (r : Site.Record) (rest : List Site.Record) :
    s.reportAll (r :: rest) = (s.report r).reportAll rest := by
  rw [Site.reportAll, Site.reportAll, Site.report, List.append_assoc]
  rfl

/-- Where nothing is missed, nothing is reported. -/
theorem executed_of_misses_nil {sw : Switch} {c : Command} (h : misses sw.device c = []) :
    executed sw c = sw.execute c := by
  rw [executed, h, List.map_nil, reportAll_nil]

/-- A state is set as the command for it says. -/
theorem setStatus_eq (sw : Switch) (ref : Option String) (status : Status) (severity : Severity) :
    setStatus sw ref status severity = executed sw (.setStatus ref status severity) := by
  cases hf : sw.device.find? ref with
  | none =>
    have hmiss : misses sw.device (.setStatus ref status severity) =
        ["No interface matches " ++ Text.quotedOption ref] := by
      rw [misses, hf]
      rfl
    rw [setStatus, hf, executed, hmiss, Switch.execute, Command.change?, hf]
    rfl
  | some i =>
    have hmiss : misses sw.device (.setStatus ref status severity) = [] := by
      rw [misses, hf]
      rfl
    rw [setStatus, hf, executed_of_misses_nil hmiss, Switch.execute, Command.change?, hf]
    rfl

/-- What is shown is what the command for it answers, which does nothing else. -/
theorem showCommand_eq (sw : Switch) (args : List String) :
    showCommand sw.device args =
        ((Command.ofShown args).answer sw.device).mapError .unshown ∧
      executed sw (Command.ofShown args) = sw := by
  rw [showCommand, itemWithin_eq]
  cases args with
  | nil => exact ⟨rfl, executed_of_misses_nil rfl⟩
  | cons word rest =>
    by_cases hinterfaces : word = "interfaces"
    · subst hinterfaces
      exact ⟨rfl, executed_of_misses_nil rfl⟩
    by_cases hvlan : word = "vlan"
    · subst hvlan
      refine ⟨?_, executed_of_misses_nil rfl⟩
      change (numbers sw.device.vlans >>= _) =
        ((sw.device.vlanText.map _).mapError _).mapError _
      rw [numbers_eq, sw.device.vlanText_eq]
      split <;> rfl
    by_cases hversion : word = "version"
    · subst hversion
      exact ⟨rfl, executed_of_misses_nil rfl⟩
    by_cases hlog : word = "log" ∨ word = "logging"
    · have hshown : (entries (sw.device.recent Command.logShown) >>= fun lines =>
          pure (Text.join "\n" lines)) =
          ((Command.logText sw.device).mapError DisplayError.time).mapError Fault.unshown := by
        rw [entries_eq, Command.logText_eq]
        split <;> rfl
      rcases hlog with rfl | rfl
      · exact ⟨hshown, executed_of_misses_nil rfl⟩
      · exact ⟨hshown, executed_of_misses_nil rfl⟩
    obtain ⟨hlog, hlogging⟩ := not_or.mp hlog
    have hother : Command.ofShown (word :: rest) = .showOther := by
      rw [Command.ofShown] <;> simp_all
    rw [hother]
    refine ⟨?_, executed_of_misses_nil rfl⟩
    change (if (word :: rest)[0]? = some "interfaces" then _ else _) = _
    simp only [List.getElem?_cons_zero, Option.some.injEq, hinterfaces, hvlan, hversion, hlog,
      hlogging, if_false, decide_false, Bool.or_self, Bool.false_eq_true]
    rfl

/-- What a word in small letters does is what the command for it does, and its answer is that of the
command, if there is one; a word that answers with nothing is no command. -/
theorem execute_eq (sw : Switch) (word : String) (args : List String) :
    (execute sw word args).map
        (fun (output, after) => (output.getD ("% Unknown command: " ++ word), after)) =
      (((Command.ofWords word args).answer sw.device).mapError .unshown).map
        fun text => (text, executed sw (Command.ofWords word args)) := by
  rw [execute, Command.ofWords.eq_def]
  by_cases hshow : word = "show"
  · obtain ⟨hanswer, hsame⟩ := showCommand_eq sw args
    rw [if_pos hshow, if_pos hshow, hanswer, hsame]
    cases (Command.ofShown args).answer sw.device <;> rfl
  rw [if_neg hshow, if_neg hshow]
  by_cases hconfigure : (word = "interface" || word = "int") = true
  · rw [if_pos hconfigure, if_pos hconfigure, executed_of_misses_nil rfl]
    rfl
  rw [if_neg hconfigure, if_neg hconfigure]
  by_cases hshutdown : word = "shutdown"
  · rw [if_pos hshutdown, if_pos hshutdown, shutdownCommand, itemWithin_eq, List.head?_eq_getElem?,
      ← setStatus_eq]
    rfl
  rw [if_neg hshutdown, if_neg hshutdown]
  by_cases hhelp : (word = "help" || word = "?") = true
  · rw [if_pos hhelp, if_pos hhelp, executed_of_misses_nil rfl]
    rfl
  rw [if_neg hhelp, if_neg hhelp]
  by_cases hno : word = "no"
  · subst hno
    rw [if_pos rfl, noCommand, itemWithin_eq]
    cases args with
    | nil =>
      rw [executed_of_misses_nil rfl]
      rfl
    | cons first rest =>
      by_cases hfirst : first = "shutdown"
      · subst hfirst
        change _ = Except.ok ("", executed sw (.setStatus rest.head? .up .info))
        rw [← setStatus_eq, List.head?_eq_getElem?]
        rfl
      · have hshut : ¬ (first :: rest).take 1 = ["shutdown"] := by
          simpa using hfirst
        rw [if_neg hshut]
        split
        · exact absurd (List.cons.inj ‹first :: rest = _›).1 hfirst
        · contradiction
        · rw [executed_of_misses_nil rfl]
          rfl
  rw [if_neg hno]
  by_cases hhostname : word = "hostname"
  · subst hhostname
    rw [if_pos rfl, hostnameCommand]
    cases args with
    | nil | cons =>
      rw [executed_of_misses_nil rfl]
      rfl
  rw [if_neg hhostname]
  split
  · contradiction
  · contradiction
  · rw [executed_of_misses_nil rfl]
    rfl

/-- A command without an answer does nothing. -/
theorem executed_of_error {sw : Switch} {c : Command} {cause : DisplayError}
    (h : c.answer sw.device = .error cause) : executed sw c = sw := by
  cases c with
  | showVlans | showLog => exact executed_of_misses_nil rfl
  | nothing | showInterfaces | showVersion | showOther | configure | setStatus | setHostname
  | help | unknown => cases h

/-- A line is carried out in checked steps with the same outcome. Where it has no answer, that is
because something is not shown. -/
theorem interpret_eq (sw : Switch) (line : Option String) :
    interpret sw line =
      ((sw.interpret (line.getD "")).1.mapError .unshown, (sw.interpret (line.getD "")).2) := by
  rw [interpret, Switch.interpret, Command.details, Command.ofLine]
  cases Text.wordsOf (line.getD "") with
  | nil =>
    dsimp only
    rw [List.map_nil, reportAll_nil]
    rfl
  | cons first args =>
    let word := Text.lowered first
    let told : Switch := { sw with site := sw.site.tick.2.report (.debug Switch.commandChannel
      ("interpret: cmd=" ++ Text.quoted word ++ " args=" ++ Text.quotedList args)) }
    let c := Command.ofWords word args
    let timed (after : Switch) (failure : Option String) : Switch :=
      { after with
        site := after.site.finish "interpret" sw.device.hostname sw.site.tick.1 failure [] }
    have hexecute := execute_eq told word args
    dsimp only
    rw [List.map_cons, reportAll_cons]
    change (match execute told word args with
      | .error fault => (.error fault, timed told fault.message)
      | .ok (output, after) =>
        (.ok (output.getD ("% Unknown command: " ++ word)), timed after none)) =
      ((c.answer told.device).mapError .unshown,
        timed (executed told c) (Switch.failureOf (c.answer told.device)))
    cases hanswer : c.answer told.device with
    | error cause =>
      rw [executed_of_error hanswer]
      cases hdone : execute told word args with
      | error fault =>
        rw [hdone, hanswer] at hexecute
        obtain rfl : fault = .unshown cause := Except.error.inj hexecute
        rfl
      | ok outcome =>
        rw [hdone, hanswer] at hexecute
        cases hexecute
    | ok text =>
      cases hdone : execute told word args with
      | error fault =>
        rw [hdone, hanswer] at hexecute
        cases hexecute
      | ok outcome =>
        rw [hdone, hanswer] at hexecute
        obtain ⟨htext, hafter⟩ := Prod.mk.inj (Except.ok.inj hexecute)
        exact Prod.ext (congrArg Except.ok htext) (congrArg (timed · none) hafter)

/-- Where VLANs can be written out, the one command without an answer is to show the log, and that
where an entry to be shown has a time outside of the calendar. -/
theorem answer_eq_error_iff {d : Device} (hv : ∀ v ∈ d.vlans, v.natAbs < Value.shownLimit)
    {c : Command} {cause : DisplayError} :
    c.answer d = .error cause ↔
      cause = .time .outOfRange ∧ c = .showLog ∧
        ∃ e ∈ d.recent Command.logShown, e.time.inRange = false := by
  cases c with
  | showLog =>
    rw [Command.answer, Command.logText_eq]
    by_cases hall : ∀ e ∈ d.recent Command.logShown, e.time.inRange = true
    · rw [if_pos hall]
      refine ⟨nofun, fun ⟨_, _, e, he, hout⟩ => ?_⟩
      rw [hall e he] at hout
      cases hout
    · rw [if_neg hall]
      obtain ⟨e, hentry⟩ := Classical.not_forall.mp hall
      obtain ⟨he, hout⟩ := Classical.not_imp.mp hentry
      exact ⟨fun h => ⟨(Except.error.inj h).symm, rfl, e, he, Bool.eq_false_iff.mpr hout⟩,
        fun ⟨hcause, _⟩ => congrArg Except.error hcause.symm⟩
  | showVlans =>
    rw [Command.answer, d.vlanText_eq, if_pos hv]
    exact ⟨nofun, fun ⟨_, hc, _⟩ => nomatch hc⟩
  | nothing | showInterfaces | showVersion | showOther | configure | setStatus | setHostname
  | help | unknown => exact ⟨nofun, fun ⟨_, hc, _⟩ => nomatch hc⟩

end LeafSwitch.Checked
