import LeafSwitch.Proofs.Console.Progress

/-!
# One request at a time

Requests for blocks go through a course: each is accepted, its block is asked for, the answer comes,
and a block that is the answer is applied right then. In whatever order lines come in, turns are
taken and questions are answered, the courses of requests follow one another without overlapping,
and a request is refused exactly while another one is on its way.
-/

namespace LeafSwitch.Console

/-- Whether a deed belongs to the course of an accepted request. -/
def Deed.isRequest : Deed → Bool
  | .refused _ | .handled _ => false
  | .accepted _ | .asked _ | .answered _ _ | .applied _ _ => true

/-- A request that is over: what was wanted, and the answer. -/
structure Request where
  /-- The intent. -/
  intent : String
  /-- The answer. -/
  answer : Answer

/-- The course of a request that is over: its block is asked for once, and applied once if there is
one. -/
def Request.course (r : Request) : List Deed :=
  [.accepted r.intent, .asked r.intent, .answered r.intent r.answer] ++
    match r.answer with
    | .ok block => [.applied r.intent block]
    | .error _ => []

/-- The course so far of a request that is on its way. -/
def Pending.course : Pending → List Deed
  | .accepted intent => [.accepted intent]
  | .asked intent => [.accepted intent, .asked intent]

/-- The course so far of the request that is on its way, if there is one. -/
def courseOf (waiting : Option Pending) : List Deed :=
  (waiting.map Pending.course).getD []

/-- Every block that is an answer is applied right then, before anything else is done. -/
def AppliesAtOnce (history : List Deed) : Prop :=
  ∀ before after intent block, history = before ++ .answered intent (.ok block) :: after →
    ∃ rest, after = .applied intent block :: rest

theorem AppliesAtOnce.nil : AppliesAtOnce [] := by
  intro before after intent block h
  exact absurd h.symm (List.append_ne_nil_of_right_ne_nil _ (List.cons_ne_nil _ _))

theorem AppliesAtOnce.append {a b : List Deed} (ha : AppliesAtOnce a) (hb : AppliesAtOnce b) :
    AppliesAtOnce (a ++ b) := by
  intro before after intent block h
  rcases List.append_eq_append_iff.mp h with ⟨middle, hbefore, hmiddle⟩ | ⟨middle, ha', hmiddle⟩
  · exact hb middle after intent block hmiddle
  · cases middle with
    | nil => exact hb [] after intent block hmiddle.symm
    | cons x rest =>
      obtain ⟨rfl, rfl⟩ := List.cons.inj hmiddle
      obtain ⟨more, rfl⟩ := ha before rest intent block ha'
      exact ⟨more ++ b, rfl⟩

/-- A deed that is no answer with a block leaves nothing to be applied. -/
theorem AppliesAtOnce.single {x : Deed} (hx : ∀ intent block, x ≠ .answered intent (.ok block)) :
    AppliesAtOnce [x] := by
  intro before after intent block h
  rcases List.append_eq_singleton_iff.mp h.symm with ⟨-, hcons⟩ | ⟨-, hcons⟩
  · exact absurd (List.cons.inj hcons).1.symm (hx intent block)
  · exact absurd hcons (List.cons_ne_nil _ _)

theorem AppliesAtOnce.answerDeeds (intent : String) (a : Answer) :
    AppliesAtOnce (answerDeeds intent a) := by
  cases a with
  | error text => exact .single (by rintro _ _ ⟨⟩)
  | ok block =>
    intro before after intent' block' h
    cases before with
    | nil =>
      obtain ⟨hanswered, rfl⟩ := List.cons.inj h
      cases hanswered
      exact ⟨[], rfl⟩
    | cons x rest =>
      have hrest := (List.cons.inj h).2
      exact absurd hrest.symm (fun hcons => by
        rcases List.append_eq_singleton_iff.mp hcons with ⟨-, h'⟩ | ⟨-, h'⟩ <;> cases h')

/-- A console that has served requests, as its history of deeds tells: some are over, and one may be
on its way. -/
structure Serves (tracker : Option Tracker) (d : Device) (history : List Deed)
    (served : List Request) (waiting : Option Pending) (c : Console) : Prop where
  /-- The courses of requests follow one another. -/
  courses : history.filter Deed.isRequest = served.flatMap Request.course ++ courseOf waiting
  /-- The request that is on its way is found with the console. -/
  pending : c.pending.Perm waiting.toList
  /-- The console is busy while there is one. -/
  processing : c.processing = waiting.isSome
  /-- Blocks have been asked for as the history tells. -/
  intents : c.intents = history.filterMap Deed.asked?
  /-- The device is what the deeds have made of it. -/
  device : Becomes tracker d history c.switch.device
  /-- Applied blocks are filed as at the start. -/
  tracker_eq : c.tracker = tracker
  /-- The device is well-formed. -/
  wellFormed : c.switch.device.WellFormed
  /-- Blocks are applied at once. -/
  atOnce : AppliesAtOnce history

section Serves

variable {tracker : Option Tracker} {d : Device} {history done : List Deed}
  {served served' : List Request} {waiting waiting' : Option Pending} {more : List Pending}
  {c middle after : Console}

/-- A console goes on serving where its deeds continue the courses and the requests on their way
come out right; it may have put one aside, to see to it. -/
theorem Serves.proceed (h : Serves tracker d history served waiting c)
    (hp : middle.Proceeds done more after)
    (hsame : middle.tracker = c.tracker ∧ middle.intents = c.intents ∧ middle.switch = c.switch)
    (hpending : (more ++ middle.pending).Perm waiting'.toList)
    (hprocessing : after.processing = waiting'.isSome)
    (hcourses : courseOf waiting ++ done.filter Deed.isRequest =
      (served'.flatMap Request.course) ++ courseOf waiting') (hatOnce : AppliesAtOnce done) :
    Serves tracker d (history ++ done) (served ++ served') waiting' after where
  courses := by
    rw [List.filter_append, h.courses, List.append_assoc, hcourses, List.flatMap_append,
      List.append_assoc]
  pending := hp.pending.trans hpending
  processing := hprocessing
  intents := by rw [hp.intents, hsame.2.1, h.intents, List.filterMap_append]
  device := by
    have hdevice := hp.device
    rw [hsame.1, hsame.2.2, h.tracker_eq] at hdevice
    exact h.device.trans hdevice
  tracker_eq := by rw [hp.tracker, hsame.1, h.tracker_eq]
  wellFormed := hp.wellFormed
  atOnce := h.atOnce.append hatOnce

/-- A console that does nothing about requests goes on serving the same ones. -/
theorem Serves.aside (h : Serves tracker d history served waiting c)
    (hp : middle.Proceeds done [] after)
    (hsame : middle.tracker = c.tracker ∧ middle.intents = c.intents ∧ middle.switch = c.switch)
    (hmiddle : middle.pending.Perm c.pending)
    (hprocessing : after.processing = c.processing)
    (hdone : done.filter Deed.isRequest = []) (hatOnce : AppliesAtOnce done) :
    Serves tracker d (history ++ done) served waiting after := by
  have hserved : served ++ [] = served := List.append_nil served
  rw [← hserved]
  refine h.proceed hp hsame (hmiddle.trans h.pending) (hprocessing.trans h.processing) ?_ hatOnce
  rw [hdone, List.append_nil]
  rfl

end Serves

/-- A console at the start has served nothing. -/
theorem Serves.start {sw : Switch} (hd : sw.device.WellFormed) (tracker : Option Tracker)
    (collaborator : Collaborator) :
    Serves tracker sw.device [] [] none (ofSwitch sw tracker collaborator) :=
  ⟨rfl, .nil, rfl, rfl, .nothing, rfl, hd, .nil⟩

/-- Writing has no part in serving. -/
theorem Serves.put {tracker : Option Tracker} {d : Device} {history : List Deed}
    {served : List Request} {waiting : Option Pending} {c : Console}
    (h : Serves tracker d history served waiting c) (text : String) :
    Serves tracker d history served waiting (c.put text) :=
  ⟨h.courses, h.pending, h.processing, h.intents, h.device, h.tracker_eq, h.wellFormed, h.atOnce⟩

section Steps

variable {tracker : Option Tracker} {d : Device} {history : List Deed} {served : List Request}
  {waiting : Option Pending} {c : Console}

/-- Among at most one request on its way, one that is singled out is the only one. -/
theorem eq_some_of_cons_perm {p : Pending} {rest : List Pending}
    (h : (p :: rest).Perm waiting.toList) : waiting = some p ∧ rest = [] := by
  cases waiting with
  | none => exact absurd h.eq_nil (List.cons_ne_nil _ _)
  | some q =>
    obtain ⟨rfl, rfl⟩ := List.cons.inj (List.perm_singleton.mp h)
    exact ⟨rfl, rfl⟩

/-- A line is served: a request is refused while another one is on its way, and set on its way
otherwise. -/
theorem Serves.line (h : Serves tracker d history served waiting c) (text : String) :
    ∃ served' waiting', Serves tracker d (history ++ c.deeds (.line text)) served' waiting'
      (c.step (.line text)) := by
  rw [deeds, lineDeeds, step]
  cases hintent : intent? text with
  | none =>
    obtain ⟨hp, hprocessing⟩ := handle_of_intent?_none h.wellFormed hintent
    exact ⟨served, waiting, h.aside hp ⟨rfl, rfl, rfl⟩ (.refl _) hprocessing rfl
      (.single (by rintro _ _ ⟨⟩))⟩
  | some intent =>
    rw [handle_of_intent? hintent]
    dsimp only
    by_cases hprocessing : c.processing = true
    · rw [if_pos hprocessing, if_pos hprocessing]
      have hp : c.Proceeds [.refused intent] [] (c.write "% AI request already in progress") :=
        ⟨rfl, .refl _, (List.append_nil _).symm, .single rfl, h.wellFormed⟩
      exact ⟨served, waiting, h.aside hp ⟨rfl, rfl, rfl⟩ (.refl _) rfl rfl
        (.single (by rintro _ _ ⟨⟩))⟩
    · rw [if_neg hprocessing, if_neg hprocessing]
      have hnone : waiting = none := by
        rw [h.processing, Bool.not_eq_true, Option.isSome_eq_false_iff] at hprocessing
        exact Option.isNone_iff_eq_none.mp hprocessing
      subst hnone
      have hp : c.Proceeds [.accepted intent] [.accepted intent]
          ({ c with processing := true }.spawn (.apply intent)) :=
        ⟨rfl, pending_due_append (t := .start (.apply intent)) rfl rfl, (List.append_nil _).symm,
          .single rfl, h.wellFormed⟩
      refine ⟨served ++ [], some (.accepted intent), h.proceed hp ⟨rfl, rfl, rfl⟩ ?_ rfl rfl
        (.single (by rintro _ _ ⟨⟩))⟩
      exact h.pending.append_left [.accepted intent]

/-- An answer that comes in leaves its request on its way. -/
theorem Serves.answer (h : Serves tracker d history served waiting c) (place : Nat) (a : Answer) :
    Serves tracker d history served waiting (c.step (.answer place a)) := by
  rw [step]
  cases hq : c.questions[place]? with
  | none => exact h
  | some question =>
    let asked : Console := { c with questions := c.questions.eraseIdx place }
    let after : Console := { asked with due := c.due ++ [.resume question a] }
    have hresume : (Turn.resume question a).pending? = question.pending? := by
      cases question <;> rfl
    have hdue : after.pending.Perm ((Turn.resume question a).pending?.toList ++ asked.pending) :=
      pending_due_append rfl rfl
    rw [hresume] at hdue
    have hp : c.Proceeds [] [] after :=
      .still h.wellFormed rfl (hdue.trans (pending_eraseIdx_questions hq)) rfl rfl
    have hserves := h.aside hp ⟨rfl, rfl, rfl⟩ (.refl _) rfl rfl .nil
    rw [List.append_nil] at hserves
    exact hserves

/-- A turn of the request on its way is served: its block is asked for, or the answer that has come
is gone on with. -/
theorem Serves.request {p : Pending} {aside : Console} {t : Turn}
    (h : Serves tracker d history served (some p) c)
    (hsame : aside.tracker = c.tracker ∧ aside.intents = c.intents ∧ aside.switch = c.switch)
    (ht : t.pending? = some p) (hnone : aside.pending = []) :
    ∃ served' waiting', Serves tracker d (history ++ aside.turnDeeds t) served' waiting'
      (aside.take t) := by
  have hd : aside.switch.device.WellFormed := by
    rw [hsame.2.2]
    exact h.wellFormed
  cases t with
  | start job =>
    cases job with
    | analyze => nomatch ht
    | apply intent =>
      obtain rfl := Option.some.inj ht
      have htake := take_start_apply hd intent
      rw [turnDeeds]
      cases hanswer : aside.answerAtOnce? intent with
      | none =>
        rw [hanswer] at htake
        refine ⟨served ++ [], some (.asked intent), h.proceed htake.1 hsame ?_ htake.2 rfl
          (.single (by rintro _ _ ⟨⟩))⟩
        rw [hnone]
        exact .refl _
      | some a =>
        rw [hanswer] at htake
        have hasked : AppliesAtOnce [.asked intent] := .single (by rintro _ _ ⟨⟩)
        refine ⟨served ++ [⟨intent, a⟩], none, h.proceed htake.1 hsame ?_ htake.2 ?_
          (hasked.append (.answerDeeds intent a))⟩
        · rw [hnone]
          exact .nil
        · cases a <;> rfl
  | resume question a =>
    cases question with
    | analysis logs => nomatch ht
    | block intent device =>
      obtain rfl := Option.some.inj ht
      obtain ⟨hp, hprocessing⟩ := finish_block hd intent device a
      refine ⟨served ++ [⟨intent, a⟩], none, h.proceed hp hsame ?_ hprocessing ?_
        (.answerDeeds intent a)⟩
      · rw [hnone]
        exact .nil
      · cases a <;> rfl
  | settle failed => nomatch ht

/-- A turn is served: a request goes on with its course. -/
theorem Serves.turn (h : Serves tracker d history served waiting c) (place : Nat) :
    ∃ served' waiting', Serves tracker d (history ++ c.deeds (.turn place)) served' waiting'
      (c.step (.turn place)) := by
  rw [deeds, step]
  cases ht : c.due[place]? with
  | none =>
    refine ⟨served, waiting, ?_⟩
    have hsame : history ++ ((none : Option Turn).map c.turnDeeds).getD [] = history :=
      List.append_nil history
    rw [hsame]
    exact h
  | some t =>
    let aside : Console := { c with due := c.due.eraseIdx place }
    have hpending : (t.pending?.toList ++ aside.pending).Perm waiting.toList :=
      (pending_eraseIdx_due ht).trans h.pending
    change ∃ served' waiting', Serves tracker d (history ++ aside.turnDeeds t) served' waiting'
      (aside.take t)
    cases hrequest : t.pending? with
    | none =>
      obtain ⟨hp, hprocessing, hdeeds⟩ := take_of_pending?_none (c := aside) h.wellFormed hrequest
      have hsame : aside.pending.Perm c.pending := by
        have herase := pending_eraseIdx_due ht
        rw [hrequest] at herase
        exact herase
      rw [hdeeds]
      exact ⟨served, waiting, h.aside hp ⟨rfl, rfl, rfl⟩ hsame hprocessing rfl .nil⟩
    | some p =>
      rw [hrequest] at hpending
      obtain ⟨hwaiting, hnone⟩ := eq_some_of_cons_perm hpending
      subst hwaiting
      exact h.request ⟨rfl, rfl, rfl⟩ hrequest hnone

end Steps

/-- Whatever happens is served. -/
theorem Serves.step {tracker : Option Tracker} {d : Device} {history : List Deed}
    {served : List Request} {waiting : Option Pending} {c : Console}
    (h : Serves tracker d history served waiting c) (e : Event) :
    ∃ served' waiting', Serves tracker d (history ++ c.deeds e) served' waiting' (c.step e) := by
  cases e with
  | line text => exact h.line text
  | turn place => exact h.turn place
  | answer place a =>
    have hdeeds : history ++ c.deeds (.answer place a) = history := List.append_nil history
    rw [hdeeds]
    exact ⟨served, waiting, h.answer place a⟩

/-- Whatever happens is served, event by event. -/
theorem Serves.steps {tracker : Option Tracker} {d : Device} {history : List Deed}
    {served : List Request} {waiting : Option Pending} {c : Console}
    (h : Serves tracker d history served waiting c) (events : List Event) :
    ∃ served' waiting',
      Serves tracker d (history ++ c.history events) served' waiting' (c.steps events) := by
  induction events using List.reverseRecOn with
  | nil =>
    have hsame : history ++ c.history [] = history := List.append_nil history
    rw [hsame]
    exact ⟨served, waiting, h⟩
  | append_singleton events e ih =>
    obtain ⟨served', waiting', h'⟩ := ih
    rw [history_snoc, steps_snoc, ← List.append_assoc]
    exact h'.step e

/-- Whatever has happened from the start on has been served. -/
theorem exists_serves (sw : Switch) (hd : sw.device.WellFormed) (tracker : Option Tracker)
    (collaborator : Collaborator) (events : List Event) :
    let c := ofSwitch sw tracker collaborator
    ∃ served waiting,
      Serves tracker sw.device (c.history events) served waiting (c.steps events) :=
  (Serves.start hd tracker collaborator).steps events

/-- Where an answer is the last that has been done, no request is on its way. -/
theorem Serves.waiting_eq_none_of_answered {tracker : Option Tracker} {d : Device}
    {history before : List Deed} {served : List Request} {waiting : Option Pending} {c : Console}
    (h : Serves tracker d history served waiting c) {intent : String} {a : Answer}
    (hlast : history = before ++ [.answered intent a]) : waiting = none := by
  have hcourses := congrArg List.getLast? h.courses
  rw [hlast, List.filter_append] at hcourses
  cases waiting with
  | none => rfl
  | some p =>
    have hanswered : [Deed.answered intent a].filter Deed.isRequest = [.answered intent a] := rfl
    have hcourse : courseOf (some p) = p.course := rfl
    rw [hanswered, hcourse, List.getLast?_concat] at hcourses
    cases p with
    | accepted wanted =>
      rw [Pending.course, List.getLast?_concat] at hcourses
      nomatch hcourses
    | asked wanted =>
      rw [Pending.course, List.getLast?_append] at hcourses
      nomatch hcourses

/-- Requests for blocks are served one at a time, in whatever order lines come in, turns are taken
and questions are answered. The history is made of the courses of requests that are over, one after
another, and of the course so far of the one that is on its way, if there is one. In each course the
block is asked for once, with the intent of the accepted line, and a block that is the answer is
applied once, right then. The console is busy exactly while a request is on its way, and a request
is refused exactly while the console is busy. -/
theorem serves_one_at_a_time {hostname : String} {interfaces : List Interface} {vlans : List Int}
    {logs : List LogEntry} {d : Device}
    (hd : Device.build hostname interfaces vlans logs = .ok d) (site : Site)
    (tracker : Option Tracker) (collaborator : Collaborator) (events : List Event) :
    let start := ofSwitch ⟨d, site⟩ tracker collaborator
    let c := start.steps events
    let history := start.history events
    ∃ (served : List Request) (waiting : Option Pending),
      history.filter Deed.isRequest = served.flatMap Request.course ++ courseOf waiting ∧
      c.pending.Perm waiting.toList ∧
      (c.processing = true ↔ waiting.isSome = true) ∧
      c.intents = history.filterMap Deed.asked? ∧
      Becomes tracker d history c.switch.device ∧
      (∀ before after intent block, history = before ++ .answered intent (.ok block) :: after →
        ∃ rest, after = .applied intent block :: rest) ∧
      (∀ before intent text, history = before ++ [.answered intent (.error text)] →
        c.processing = false) ∧
      ∀ text intent, intent? text = some intent →
        (c.processing = true →
          c.step (.line text) = c.write "% AI request already in progress" ∧
          c.deeds (.line text) = [.refused intent]) ∧
        (c.processing = false →
          c.step (.line text) = { c with processing := true }.spawn (.apply intent) ∧
          c.deeds (.line text) = [.accepted intent]) := by
  intro start c history
  obtain ⟨served, waiting, h⟩ :=
    exists_serves ⟨d, site⟩ (Device.build_wellFormed hd) tracker collaborator events
  refine ⟨served, waiting, h.courses, h.pending, ?_, h.intents, h.device, h.atOnce, ?_, ?_⟩
  · exact iff_of_eq (congrArg (· = true) h.processing)
  · intro before intent text hlast
    rw [h.processing, h.waiting_eq_none_of_answered hlast]
    rfl
  · intro text intent hintent
    have hstep : c.step (.line text) = (c.handle text).2 := rfl
    have hdeeds : c.deeds (.line text) =
        if c.processing then [.refused intent] else [.accepted intent] := by
      rw [deeds, lineDeeds, hintent]
    rw [hstep, handle_of_intent? hintent, hdeeds]
    constructor
    · intro hbusy
      rw [if_pos hbusy, if_pos hbusy]
      exact ⟨rfl, rfl⟩
    · intro hidle
      rw [hidle]
      exact ⟨rfl, rfl⟩

/-- A console with two ports, whose collaborator takes its time. -/
def twoPorts : Console :=
  ofSwitch ⟨Device.twoPorts, Site.quiet⟩ none .remote

/-- A request is made; another one, and a line for the switch, come while it is under way. -/
def twoRequests : List Event :=
  [.line " ai  shut et1 ", .turn 0, .line "ai more", .answer 0 (.ok "interface et1\nshutdown"),
    .line "show version", .turn 0]

/-- The first request runs its course, and its block is applied although it has been answered before
the last line; the second one is refused. -/
theorem serves_one_at_a_time_twoPorts :
    twoPorts.history twoRequests =
        [.accepted "shut et1", .asked "shut et1", .refused "more", .handled "show version",
          .answered "shut et1" (.ok "interface et1\nshutdown"),
          .applied "shut et1" "interface et1\nshutdown"] ∧
      (twoPorts.steps twoRequests).processing = false ∧
      (twoPorts.steps twoRequests).intents = ["shut et1"] ∧
      Becomes none Device.twoPorts (twoPorts.history twoRequests)
        (twoPorts.steps twoRequests).switch.device := by
  have hhistory : twoPorts.history twoRequests =
      [.accepted "shut et1", .asked "shut et1", .refused "more", .handled "show version",
        .answered "shut et1" (.ok "interface et1\nshutdown"),
        .applied "shut et1" "interface et1\nshutdown"] := by
    rfl
  obtain ⟨_, _, _, _, _, hintents, hdevice, _⟩ :=
    serves_one_at_a_time Device.twoPorts_build Site.quiet none .remote twoRequests
  refine ⟨hhistory, ?_, ?_, hdevice⟩
  · decide +kernel
  · refine hintents.trans ?_
    change (twoPorts.history twoRequests).filterMap Deed.asked? = _
    rw [hhistory]
    rfl

end LeafSwitch.Console
