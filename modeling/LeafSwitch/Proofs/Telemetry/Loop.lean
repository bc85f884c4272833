import LeafSwitch.Proofs.Device.WellFormed
import LeafSwitch.Proofs.Site.Stamps
import LeafSwitch.Telemetry.Run

/-!
# Stopping telemetry

A telemetry run is a task that takes a sample, waits, and takes the next one. Other tasks may call
for an end at any moment between two steps of it. A flag keeps the call, and the task looks at the
flag whenever its wait is over. But the flag is cleared when a task takes its first step. So a call
holds against every task that has begun, until one begins that has been created before, and a call
that comes before the first step of the only task is lost.
-/

namespace LeafSwitch

namespace Telemetry

/-! ### Tasks and steps -/

/-- How far a task has come. -/
inductive Stage where
  /-- It has been created, and has its first step before it. -/
  | created
  /-- It waits between two samples, and may have been called meanwhile. -/
  | waiting (called : Bool)
  /-- It has ended. -/
  | ended
  deriving DecidableEq, Repr

/-- A call for an end reaches the tasks that wait. -/
def Stage.call : Stage → Stage
  | .waiting _ => .waiting true
  | stage => stage

/-- Why a wait is over. -/
inductive Cause where
  /-- The time is over. -/
  | timeout
  /-- There has been a call for an end. -/
  | call
  deriving DecidableEq, Repr

/-- What happens around a telemetry run without anything in between. -/
inductive Event where
  /-- A task is created. -/
  | create
  /-- Somebody calls for an end. -/
  | stop
  /-- The task in a place takes its first step, with what comes of the sample. -/
  | start (place : Nat) (turn : Turn)
  /-- The wait of the task in a place is over; what comes of the sample if one is taken. -/
  | wake (place : Nat) (cause : Cause) (turn : Turn)
  deriving DecidableEq, Repr

/-- Whether a task takes its first step. -/
def Event.isStart : Event → Bool
  | .start _ _ => true
  | _ => false

/-- Telemetry with all its tasks. -/
structure Loop where
  /-- The switch that is sampled. -/
  switch : Switch
  /-- The samples that are kept. -/
  window : Window
  /-- The text of the interval. -/
  interval : String
  /-- The flag: whether there has been a call for an end. -/
  stopped : Bool
  /-- The tasks, in the order of their creation. -/
  tasks : List Stage
  /-- The samples attempted, in their order. -/
  attempted : List Turn

namespace Loop

/-- Telemetry without a task. -/
def idle (sw : Switch) (interval : String) (w : Window) : Loop :=
  ⟨sw, w, interval, false, [], []⟩

/-- A task attempts a sample and waits. -/
def attempt (l : Loop) (place : Nat) (turn : Turn) : Loop :=
  let (window, switch) := l.switch.turns l.window [turn]
  { l with
    switch
    window
    tasks := l.tasks.set place (.waiting false)
    attempted := l.attempted ++ [turn] }

/-- A task begins: it says so and clears the flag. -/
def clear (l : Loop) : Loop :=
  { l with switch := l.switch.report (startRecord l.interval l.window), stopped := false }

/-- A task ends, and says so. -/
def leave (l : Loop) (place : Nat) : Loop :=
  { l with switch := l.switch.report stopRecord, tasks := l.tasks.set place .ended }

/-- What an event makes of telemetry, if it can happen. A first step finds the flag cleared. -/
def step (l : Loop) : Event → Option Loop
  | .create => some { l with tasks := l.tasks ++ [.created] }
  | .stop => some { l with stopped := true, tasks := l.tasks.map Stage.call }
  | .start place turn =>
    if l.tasks[place]? = some .created then some (l.clear.attempt place turn) else none
  | .wake place cause turn =>
    match l.tasks[place]? with
    | some (.waiting called) =>
      if cause = .call && !called then none
      else some (if l.stopped then l.leave place else l.attempt place turn)
    | _ => none

/-- What events make of telemetry one after another, if they can happen. -/
def run (l : Loop) : List Event → Option Loop
  | [] => some l
  | e :: rest => (l.step e).bind fun m => m.run rest

variable {l m : Loop}

/-- Events in two rows happen like events in one. -/
theorem run_append (l : Loop) (a b : List Event) : l.run (a ++ b) = (l.run a).bind (·.run b) := by
  induction a generalizing l with
  | nil => rfl
  | cons e rest ih =>
    rw [List.cons_append, run, run]
    cases l.step e with
    | none => rfl
    | some m => exact ih m

/-- What single events of some kind keep is kept by a row of them. -/
theorem keeps_of_run {p : Loop → Prop} {q : Event → Prop}
    (hkeeps : ∀ {l m : Loop} {e : Event}, p l → q e → l.step e = some m → p m)
    {events : List Event} (hl : p l) (hevents : ∀ e ∈ events, q e) (h : l.run events = some m) :
    p m := by
  induction events generalizing l with
  | nil =>
    obtain rfl := Option.some.inj h
    exact hl
  | cons e rest ih =>
    obtain ⟨middle, hstep, hrest⟩ := Option.bind_eq_some_iff.mp h
    have hmiddle := hkeeps hl (hevents e List.mem_cons_self) hstep
    exact ih hmiddle (fun x hx => hevents x (List.mem_cons_of_mem e hx)) hrest

/-- A first step is taken by a task that has been created. -/
theorem step_start {place : Nat} {turn : Turn} (h : l.step (.start place turn) = some m) :
    l.tasks[place]? = some .created ∧ m = l.clear.attempt place turn := by
  rw [step] at h
  split at h
  · rename_i hcreated
    exact ⟨hcreated, (Option.some.inj h).symm⟩
  · cases h

/-- A task that waits leaves when its wait is over if the flag is set, and else takes a sample. -/
theorem step_wake {place : Nat} {cause : Cause} {turn : Turn}
    (h : l.step (.wake place cause turn) = some m) :
    (∃ called, l.tasks[place]? = some (.waiting called)) ∧
      (l.stopped = true ∧ m = l.leave place ∨ l.stopped = false ∧ m = l.attempt place turn) := by
  rw [step] at h
  split at h
  · rename_i called hwaiting
    split at h
    · cases h
    · obtain rfl := Option.some.inj h
      refine ⟨⟨called, hwaiting⟩, ?_⟩
      cases hstopped : l.stopped with
      | true => exact Or.inl ⟨rfl, rfl⟩
      | false => exact Or.inr ⟨rfl, rfl⟩
  · cases h

/-! ### While the flag is set -/

/-- No sample has been attempted from one moment to another. -/
structure Rests (l m : Loop) : Prop where
  /-- The attempts are the same. -/
  attempted : m.attempted = l.attempted
  /-- The samples kept are the same. -/
  window : m.window = l.window
  /-- The device is the same. -/
  device : m.switch.device = l.switch.device

theorem Rests.refl (l : Loop) : l.Rests l :=
  ⟨rfl, rfl, rfl⟩

theorem Rests.trans {n : Loop} (h : l.Rests m) (h' : m.Rests n) : l.Rests n :=
  ⟨h'.attempted.trans h.attempted, h'.window.trans h.window, h'.device.trans h.device⟩

/-- While the flag is set, nothing but a first step clears it or attempts a sample. -/
theorem rests_of_step (hstopped : l.stopped = true) {e : Event} (he : e.isStart = false)
    (h : l.step e = some m) : m.stopped = true ∧ l.Rests m := by
  cases e with
  | create =>
    obtain rfl := Option.some.inj h
    exact ⟨hstopped, rfl, rfl, rfl⟩
  | stop =>
    obtain rfl := Option.some.inj h
    exact ⟨rfl, rfl, rfl, rfl⟩
  | start place turn => cases he
  | wake place cause turn =>
    rcases (step_wake h).2 with ⟨_, rfl⟩ | ⟨hclear, _⟩
    · exact ⟨hstopped, rfl, rfl, rfl⟩
    · rw [hstopped] at hclear
      cases hclear

/-- While the flag is set, no sample is attempted until a task takes its first step. -/
theorem rests_of_run (hstopped : l.stopped = true) {events : List Event}
    (hnone : ∀ e ∈ events, e.isStart = false) (h : l.run events = some m) :
    m.stopped = true ∧ l.Rests m := by
  refine keeps_of_run (p := fun n => n.stopped = true ∧ l.Rests n) ?_ ⟨hstopped, .refl l⟩ hnone h
  intro n after e hn he hstep
  obtain ⟨hset, hrests⟩ := rests_of_step hn.1 he hstep
  exact ⟨hset, hn.2.trans hrests⟩

/-! ### Attempts -/

/-- Attempts are never taken back, and a first step adds one. -/
theorem exists_attempted_of_step {e : Event} (h : l.step e = some m) :
    ∃ more, m.attempted = l.attempted ++ more ∧ (e.isStart = true → more ≠ []) := by
  cases e with
  | create | stop =>
    obtain rfl := Option.some.inj h
    exact ⟨[], (List.append_nil _).symm, fun hstart => nomatch hstart⟩
  | start place turn =>
    obtain ⟨_, rfl⟩ := step_start h
    exact ⟨[turn], rfl, fun _ => List.cons_ne_nil turn []⟩
  | wake place cause turn =>
    rcases (step_wake h).2 with ⟨_, rfl⟩ | ⟨_, rfl⟩
    · exact ⟨[], (List.append_nil _).symm, fun hstart => nomatch hstart⟩
    · exact ⟨[turn], rfl, fun _ => List.cons_ne_nil turn []⟩

/-- Attempts are never taken back, and where a task takes its first step there are more. -/
theorem exists_attempted_of_run {events : List Event} (h : l.run events = some m) :
    ∃ more, m.attempted = l.attempted ++ more ∧
      ((∃ e ∈ events, e.isStart = true) → more ≠ []) := by
  induction events generalizing l with
  | nil =>
    obtain rfl := Option.some.inj h
    exact ⟨[], (List.append_nil _).symm, fun ⟨e, he, _⟩ => absurd he List.not_mem_nil⟩
  | cons e rest ih =>
    obtain ⟨middle, hstep, hrest⟩ := Option.bind_eq_some_iff.mp h
    obtain ⟨first, hfirst, hstart⟩ := exists_attempted_of_step hstep
    obtain ⟨later, hlater, hstart'⟩ := ih hrest
    refine ⟨first ++ later, by rw [hlater, hfirst, List.append_assoc], ?_⟩
    rintro ⟨x, hx, hxstart⟩ hnone
    obtain ⟨hfirstNone, hlaterNone⟩ := List.append_eq_nil_iff.mp hnone
    rcases List.mem_cons.mp hx with rfl | hx
    · exact hstart hxstart hfirstNone
    · exact hstart' ⟨x, hx, hxstart⟩ hlaterNone

/-! ### Tasks that have begun -/

/-- All tasks have taken their first step. -/
def Begun (l : Loop) : Prop :=
  Stage.created ∉ l.tasks

/-- Where all tasks have begun, none takes its first step, and they all have begun until another one
is created. -/
theorem Begun.step (hl : l.Begun) {e : Event} (he : e ≠ .create) (h : l.step e = some m) :
    e.isStart = false ∧ m.Begun := by
  have hset : ∀ (place : Nat) (stage : Stage), stage ≠ .created →
      Stage.created ∉ l.tasks.set place stage := by
    intro place stage hstage hmem
    rcases List.mem_or_eq_of_mem_set hmem with hold | hnew
    · exact hl hold
    · exact hstage hnew.symm
  cases e with
  | create => exact absurd rfl he
  | stop =>
    obtain rfl := Option.some.inj h
    refine ⟨rfl, fun hmem => ?_⟩
    obtain ⟨stage, hstage, hcall⟩ := List.mem_map.mp hmem
    cases stage with
    | created => exact hl hstage
    | waiting called => cases hcall
    | ended => cases hcall
  | start place turn => exact absurd (List.mem_of_getElem? (step_start h).1) hl
  | wake place cause turn =>
    rcases (step_wake h).2 with ⟨_, rfl⟩ | ⟨_, rfl⟩
    · exact ⟨rfl, hset place _ Stage.noConfusion⟩
    · exact ⟨rfl, hset place _ Stage.noConfusion⟩

/-- Where all tasks have begun and none is created, none takes its first step. -/
theorem Begun.run (hl : l.Begun) {events : List Event} (hnone : Event.create ∉ events)
    (h : l.run events = some m) : ∀ e ∈ events, e.isStart = false := by
  induction events generalizing l with
  | nil => exact fun e he => absurd he List.not_mem_nil
  | cons e rest ih =>
    obtain ⟨middle, hstep, hrest⟩ := Option.bind_eq_some_iff.mp h
    have he : e ≠ .create := by
      rintro rfl
      exact hnone List.mem_cons_self
    obtain ⟨hfirst, hmiddle⟩ := hl.step he hstep
    intro x hx
    rcases List.mem_cons.mp hx with rfl | hx
    · exact hfirst
    · exact ih hmiddle (fun hmem => hnone (List.mem_cons_of_mem e hmem)) hrest x hx

/-! ### A call for an end -/

/-- After a call for an end a sample is attempted exactly if a task takes its first step after it.
If none does, the samples kept and the device stay as they are, and each task leaves when its wait
is over. None does if all tasks have begun at the call and none is created later. -/
theorem stop_holds {later : List Event} (hcall : l.step .stop = some m) {n : Loop}
    (hlater : m.run later = some n) :
    (n.attempted = m.attempted ↔ ∀ e ∈ later, e.isStart = false) ∧
      ((∀ e ∈ later, e.isStart = false) → m.Rests n ∧
        ∀ place cause turn after, n.step (.wake place cause turn) = some after →
          after.tasks[place]? = some .ended) ∧
      (l.Begun → Event.create ∉ later → ∀ e ∈ later, e.isStart = false) := by
  have hstopped : m.stopped = true := by
    rw [← Option.some.inj hcall]
  refine ⟨⟨fun hsame => ?_, fun hnone => (rests_of_run hstopped hnone hlater).2.attempted⟩,
    fun hnone => ?_, fun hbegun hcreate => ?_⟩
  · obtain ⟨more, hmore, hstart⟩ := exists_attempted_of_run hlater
    have hnil : more = [] := List.self_eq_append_right.mp (hsame.symm.trans hmore)
    intro e he
    refine Bool.eq_false_iff.mpr fun hbegins => ?_
    exact hstart ⟨e, he, hbegins⟩ hnil
  · obtain ⟨hset, hrests⟩ := rests_of_run hstopped hnone hlater
    refine ⟨hrests, fun place cause turn after hwake => ?_⟩
    obtain ⟨⟨called, hwaiting⟩, ⟨_, rfl⟩ | ⟨hclear, _⟩⟩ := step_wake hwake
    · exact List.getElem?_set_self (List.getElem?_eq_some_iff.mp hwaiting).1
    · rw [hset] at hclear
      cases hclear
  · have hafter := (hbegun.step Event.noConfusion hcall).2
    exact hafter.run hcreate hlater

/-- Telemetry whose only task waits after a sample that has failed. -/
def oneWaiting : Loop :=
  ⟨⟨Device.twoPorts, Site.quiet⟩, ⟨2, []⟩, "2.0", false, [.waiting false], [.failure "no draw"]⟩

/-- A task that waits when the call comes takes no further sample. -/
theorem stop_holds_oneWaiting :
    ∃ m n : Loop, oneWaiting.Begun ∧ oneWaiting.step .stop = some m ∧
      m.run [.wake 0 .call (.sample (.fresh [] []))] = some n ∧
      (n.attempted = m.attempted ↔
        ∀ e ∈ [Event.wake 0 .call (.sample (.fresh [] []))], e.isStart = false) ∧
      ((∀ e ∈ [Event.wake 0 .call (.sample (.fresh [] []))], e.isStart = false) → m.Rests n ∧
        ∀ place cause turn after, n.step (.wake place cause turn) = some after →
          after.tasks[place]? = some .ended) ∧
      (oneWaiting.Begun → Event.create ∉ [Event.wake 0 .call (.sample (.fresh [] []))] →
        ∀ e ∈ [Event.wake 0 .call (.sample (.fresh [] []))], e.isStart = false) := by
  have hbegun : Stage.created ∉ [Stage.waiting false] := by decide
  exact ⟨_, _, hbegun, rfl, rfl, stop_holds rfl rfl⟩

/-- A call that comes before the first step is lost: there is a sample after it. -/
theorem stop_lost :
    ¬ ∀ (sw : Switch) (interval : String) (w : Window) (before later : List Event) (m n : Loop),
      (idle sw interval w).run (before ++ [.stop]) = some m → m.run later = some n →
      Event.create ∉ later → n.attempted = m.attempted := by
  intro h
  have hsame := h ⟨Device.twoPorts, Site.quiet⟩ "2.0" ⟨2, []⟩ [.create]
    [.start 0 (.sample (.fresh [] []))] _ _ rfl rfl (by decide)
  exact absurd hsame (by decide)

/-- While the flag is clear, no task leaves, and nothing but a call sets the flag. -/
theorem ended_of_step (hclear : l.stopped = false) {e : Event} (he : e ≠ .stop)
    (h : l.step e = some m) :
    m.stopped = false ∧ ∀ place : Nat, m.tasks[place]? = some .ended →
      l.tasks[place]? = some .ended := by
  have hset : ∀ place other : Nat, (l.tasks.set other (.waiting false))[place]? = some .ended →
      l.tasks[place]? = some .ended := by
    intro place other hended
    rw [List.getElem?_set] at hended
    split at hended
    · split at hended <;> cases hended
    · exact hended
  cases e with
  | create =>
    obtain rfl := Option.some.inj h
    refine ⟨hclear, fun place hended => ?_⟩
    rw [List.getElem?_append] at hended
    split at hended
    · exact hended
    · obtain ⟨_, hnew⟩ := List.getElem?_eq_some_iff.mp hended
      rw [List.getElem_singleton] at hnew
      cases hnew
  | stop => exact absurd rfl he
  | start place turn =>
    obtain ⟨_, rfl⟩ := step_start h
    exact ⟨rfl, fun other => hset other place⟩
  | wake place cause turn =>
    rcases (step_wake h).2 with ⟨hstopped, _⟩ | ⟨_, rfl⟩
    · rw [hclear] at hstopped
      cases hstopped
    · exact ⟨hclear, fun other => hset other place⟩

/-- While the flag is clear and no call comes, no task leaves. -/
theorem ended_of_run (hclear : l.stopped = false) {later : List Event}
    (hnone : ∀ e ∈ later, e ≠ .stop) (h : l.run later = some m) (place : Nat)
    (hended : m.tasks[place]? = some .ended) : l.tasks[place]? = some .ended := by
  refine (keeps_of_run (p := fun n => n.stopped = false ∧ ∀ place : Nat,
    n.tasks[place]? = some .ended → l.tasks[place]? = some .ended) ?_
    ⟨hclear, fun _ hsame => hsame⟩ hnone h).2 place hended
  intro n after e hn he hstep
  obtain ⟨hclear', hback⟩ := ended_of_step hn.1 he hstep
  exact ⟨hclear', fun place hafter => hn.2 place (hback place hafter)⟩

/-! ### Whole runs -/

/-- Turns are taken one after another. -/
theorem turns_cons (sw : Switch) (w : Window) (turn : Turn) (rest : List Turn) :
    sw.turns w (turn :: rest) =
      (sw.turns w [turn]).2.turns (sw.turns w [turn]).1 rest := by
  cases turn <;> rfl

/-- A task that waits takes a turn whenever its time is over. -/
theorem run_wakes (hclear : l.stopped = false) (htasks : l.tasks = [.waiting false])
    (rest : List Turn) :
    l.run (rest.map (.wake 0 .timeout)) =
      some { l with
        switch := (l.switch.turns l.window rest).2
        window := (l.switch.turns l.window rest).1
        attempted := l.attempted ++ rest } := by
  induction rest generalizing l with
  | nil => rw [List.map_nil, run, List.append_nil]; rfl
  | cons turn rest ih =>
    have hstep : l.step (.wake 0 .timeout turn) = some (l.attempt 0 turn) := by
      rw [step, htasks, hclear]
      rfl
    have htasks' : (l.attempt 0 turn).tasks = [.waiting false] := by
      rw [attempt, htasks]
      rfl
    rw [List.map_cons, run, hstep, Option.bind_some, ih (l := l.attempt 0 turn) hclear htasks',
      turns_cons l.switch l.window turn rest]
    have hattempted : (l.attempt 0 turn).attempted ++ rest = l.attempted ++ turn :: rest :=
      List.append_assoc ..
    rw [hattempted, htasks', htasks]
    rfl

/-- A plan of turns is what happens if one task is created, takes its turns, and is called after the
last one. -/
theorem run_plan (sw : Switch) (interval : String) (w : Window) (first : Turn) (rest : List Turn) :
    (idle sw interval w).run
      ([.create, .start 0 first] ++ rest.map (.wake 0 .timeout) ++ [.stop, .wake 0 .call first]) =
        some ⟨(sw.runTelemetry interval w (first :: rest)).2,
          (sw.runTelemetry interval w (first :: rest)).1, interval, true, [.ended],
          first :: rest⟩ := by
  let begun := { idle sw interval w with tasks := [.created] }.clear.attempt 0 first
  have hbegin : (idle sw interval w).run [.create, .start 0 first] = some begun := rfl
  rw [run_append, run_append, hbegin, Option.bind_some, run_wakes rfl rfl, Option.bind_some,
    Switch.runTelemetry, turns_cons]
  rfl

end Loop

end Telemetry

end LeafSwitch
