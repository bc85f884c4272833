import LeafSwitch.Proofs.Session.Run
import Mathlib.Algebra.Order.Ring.Int

/-!
# Watching a switch at work

Samples are taken of a switch while its operator goes on with lines and blocks. A window of some
length keeps the last of them. A sample changes nothing about the switch but its log, where it says
something exactly if it counts errors.
-/

namespace LeafSwitch

namespace Telemetry

/-! ### Windows -/

/-- A window keeps the last samples of those taken. -/
def Window.Keeps (w : Window) (taken : List Point) : Prop :=
  w.points = taken.drop (taken.length - w.length)

/-- A window that keeps the last samples does so after one more. -/
theorem Window.Keeps.push {w : Window} {taken : List Point} (h : w.Keeps taken) (p : Point) :
    (w.push p).Keeps (taken ++ [p]) := by
  rw [Keeps] at h ⊢
  have hfront : taken.length - w.length ≤ taken.length := Nat.sub_le ..
  have hall : w.points ++ [p] = (taken ++ [p]).drop (taken.length - w.length) := by
    rw [h, List.drop_append_of_le_length hfront]
  have hcount : (taken.length - w.length) +
      (((taken ++ [p]).drop (taken.length - w.length)).length - w.length) =
        (taken ++ [p]).length - w.length := by
    rw [List.length_drop, List.length_append, List.length_singleton]
    omega
  rw [Window.push]
  dsimp only
  rw [hall, List.drop_drop, hcount]

/-- There is a window of each length of less than 64 bits. -/
theorem Window.ofLength_eq_ok {length : Int} (hpos : 0 ≤ length) (hlt : length < 2 ^ 63) :
    Window.ofLength length = .ok ⟨length.toNat, []⟩ := by
  have hbound : ((Nat.pow 2 63 : Nat) : Int) = 2 ^ 63 := rfl
  rw [Window.ofLength, hbound, if_neg, if_neg (Int.not_lt.mpr hpos)]
  rw [Bool.or_eq_true, decide_eq_true_eq, decide_eq_true_eq]
  omega

/-! ### Draws -/

/-- A whole draw lies between its bounds. -/
theorem Draws.whole_mem (d : Draws) {least greatest : Int} (h : least ≤ greatest) :
    least ≤ (d.whole least greatest).1 ∧ (d.whole least greatest).1 ≤ greatest := by
  have hpos : 0 < greatest - least + 1 := by omega
  have hlow := Int.emod_nonneg (d.wholes.head?.getD 0) hpos.ne'
  have hhigh := Int.emod_lt_of_pos (d.wholes.head?.getD 0) hpos
  rw [Draws.whole]
  dsimp only
  omega

/-- No fewer than zero and no more than four errors are counted. -/
theorem errorCount_mem (d : Draws) : 0 ≤ (errorCount d).1 ∧ (errorCount d).1 ≤ 4 := by
  rw [errorCount]
  dsimp only
  split
  · exact Draws.whole_mem _ (by decide)
  · exact ⟨Int.le_refl 0, Int.natCast_nonneg 4⟩

/-- The interfaces that errors are reported on. -/
def watchedNames : List String := ["Ethernet1", "Ethernet2", "Ethernet3", "Ethernet4"]

/-- A notice about errors is a warning of the physical layer that names one of four interfaces. -/
theorem exists_errorNotice_eq {number : Int} (hlow : 1 ≤ number) (hhigh : number ≤ 4) :
    ∃ name ∈ watchedNames,
      errorNotice number = ⟨.warning, "Phy", "Input errors detected on " ++ name⟩ := by
  have hcases : number = 1 ∨ number = 2 ∨ number = 3 ∨ number = 4 := by omega
  rcases hcases with rfl | rfl | rfl | rfl
  · exact ⟨"Ethernet1", by decide, rfl⟩
  · exact ⟨"Ethernet2", by decide, rfl⟩
  · exact ⟨"Ethernet3", by decide, rfl⟩
  · exact ⟨"Ethernet4", by decide, rfl⟩

end Telemetry

open Telemetry (Draws Point Window)

/-! ### One sample -/

/-- A device after a sample is the one before it, with one warning more in its log exactly if the
sample counts errors. -/
structure Device.Observed (before after : Device) (p : Point) : Prop where
  /-- The name stays. -/
  hostname : after.hostname = before.hostname
  /-- The interfaces stay. -/
  interfaces : after.interfaces = before.interfaces
  /-- The VLANs stay. -/
  vlans : after.vlans = before.vlans
  /-- Errors are reported in one entry. -/
  reports : 0 < p.errors → ∃ e : LogEntry, after.logs = before.logs ++ [e] ∧
    ∃ name ∈ Telemetry.watchedNames,
      e.notice = ⟨.warning, "Phy", "Input errors detected on " ++ name⟩
  /-- Otherwise there is nothing to report. -/
  silent : ¬ 0 < p.errors → after.logs = before.logs

/-- A sample counts from zero up to four errors. If there are any, it appends one notice about an
interface with a number from one up to four; else it leaves the device alone. -/
theorem Switch.sample_cases (sw : Switch) (d : Draws) :
    (0 ≤ (sw.sample d).1.errors ∧ (sw.sample d).1.errors ≤ 4) ∧
      ((0 < (sw.sample d).1.errors ∧ ∃ number, 1 ≤ number ∧ number ≤ 4 ∧
          ∃ e : LogEntry, e.notice = Telemetry.errorNotice number ∧
            (sw.sample d).2.2.device = sw.device.append e) ∨
        (¬ 0 < (sw.sample d).1.errors ∧ (sw.sample d).2.2.device = sw.device)) := by
  have hcount := Telemetry.errorCount_mem (Telemetry.latency d.real.2).2
  rw [Switch.sample]
  dsimp only
  split
  · rename_i herrors
    have hnumber := Draws.whole_mem
      (Telemetry.errorCount (Telemetry.latency d.real.2).2).2 (by decide : (1 : Int) ≤ 4)
    exact ⟨hcount, Or.inl ⟨herrors, _, hnumber.1, hnumber.2, _, rfl, rfl⟩⟩
  · rename_i herrors
    exact ⟨hcount, Or.inr ⟨herrors, rfl⟩⟩

/-- A sample observes the device. -/
theorem Switch.sample_observed (sw : Switch) (d : Draws) :
    sw.device.Observed (sw.sample d).2.2.device (sw.sample d).1 := by
  rcases (sw.sample_cases d).2 with
    ⟨herrors, number, hlow, hhigh, e, hnotice, hdevice⟩ | ⟨hnone, hdevice⟩
  · obtain ⟨name, hname, heq⟩ := Telemetry.exists_errorNotice_eq hlow hhigh
    rw [hdevice]
    exact
      { hostname := rfl
        interfaces := rfl
        vlans := rfl
        reports := fun _ => ⟨e, rfl, name, hname, hnotice.trans heq⟩
        silent := fun hnone => absurd herrors hnone }
  · rw [hdevice]
    exact
      { hostname := rfl
        interfaces := rfl
        vlans := rfl
        reports := fun herrors => absurd herrors hnone
        silent := fun _ => rfl }

/-! ### Samples between lines and blocks -/

/-- What happens to a switch that is watched. -/
inductive Activity where
  /-- The operator enters a line. -/
  | line (text : String)
  /-- A block is applied, and filed where there is someone to file it. -/
  | block (tracker : Option Tracker) (submission : Submission)
  /-- A sample is taken. -/
  | sample
  deriving DecidableEq, Repr

/-- A switch that is watched, with one stream of draws for all samples. -/
structure Watch where
  /-- The switch and the window. -/
  session : Session
  /-- The draws that are left. -/
  draws : Draws
  /-- All samples taken, in their order. -/
  taken : List Point

namespace Watch

/-- The watch of a switch begins with an empty window of some length. -/
def start (sw : Switch) (draws : Draws) (length : Int) : Except Telemetry.WindowError Watch :=
  (Window.ofLength length).map fun window => ⟨⟨sw, window⟩, draws, []⟩

/-- A watch after one more activity. A sample takes its draws from those that are left. -/
def step (w : Watch) : Activity → Except BlockError Watch
  | .line text => (w.session.operate (.line text)).map fun s => { w with session := s }
  | .block tracker submission =>
    (w.session.operate (.block tracker submission)).map fun s => { w with session := s }
  | .sample =>
    let (point, draws, _) := w.session.switch.sample w.draws
    (w.session.operate (.sample w.draws)).map fun s => ⟨s, draws, w.taken ++ [point]⟩

/-- A watch after more activities. -/
def run (w : Watch) : List Activity → Except BlockError Watch
  | [] => .ok w
  | a :: rest => do
    let w ← w.step a
    w.run rest

/-- What holds of a watch after each activity: its window keeps the last samples. -/
structure Exact (w : Watch) : Prop where
  /-- The device is well-formed. -/
  wellFormed : w.session.switch.device.WellFormed
  /-- The window keeps the last samples taken. -/
  keeps : w.session.window.Keeps w.taken
  /-- No sample counts fewer than zero or more than four errors. -/
  errors_mem : ∀ p ∈ w.taken, 0 ≤ p.errors ∧ p.errors ≤ 4

variable {w : Watch}

/-- A sample is taken behind those taken before, and observes the device. -/
theorem Exact.exists_sample (h : w.Exact) :
    ∃ p v, w.step .sample = .ok v ∧ v.Exact ∧
      v.session.window.length = w.session.window.length ∧ v.taken = w.taken ++ [p] ∧
      w.session.switch.device.Observed v.session.switch.device p := by
  obtain ⟨s, hs, hwf, -⟩ := Session.exists_operate h.wellFormed (.sample w.draws)
  obtain rfl := Except.ok.inj hs
  have hcount := (w.session.switch.sample_cases w.draws).1
  refine ⟨_, _, rfl, ⟨hwf, h.keeps.push _, ?_⟩, rfl, rfl, w.session.switch.sample_observed w.draws⟩
  intro p hp
  rcases List.mem_append.mp hp with hp | hp
  · exact h.errors_mem p hp
  · rw [List.mem_singleton.mp hp]
    exact hcount

/-- A watch goes on after any activity. A sample is one more behind those taken, and nothing else is
one. -/
theorem Exact.exists_step (h : w.Exact) (a : Activity) :
    ∃ v, w.step a = .ok v ∧ v.Exact ∧
      v.session.window.length = w.session.window.length ∧
      v.taken.length = w.taken.length + [a].count .sample := by
  cases a with
  | line text =>
    exact ⟨_, rfl, ⟨Switch.interpret_wellFormed h.wellFormed text, h.keeps, h.errors_mem⟩, rfl, rfl⟩
  | block tracker submission =>
    obtain ⟨_, _, _, after, _, happly, happlied⟩ :=
      Switch.exists_applyBlock h.wellFormed tracker submission
    have hwf : after.device.WellFormed := by
      rw [happlied.device]
      exact h.wellFormed.commit _
    refine ⟨{ w with session := { w.session with switch := after } }, ?_,
      ⟨hwf, h.keeps, h.errors_mem⟩, rfl, rfl⟩
    rw [step, Session.operate, happly]
    rfl
  | sample =>
    obtain ⟨p, v, hstep, hv, hlength, htaken, -⟩ := h.exists_sample
    refine ⟨v, hstep, hv, hlength, ?_⟩
    rw [htaken, List.length_append]
    rfl

/-- A watch goes on after any row of activities, and as many samples are taken as are among them. -/
theorem Exact.exists_run (h : w.Exact) (activities : List Activity) :
    ∃ v, w.run activities = .ok v ∧ v.Exact ∧
      v.session.window.length = w.session.window.length ∧
      v.taken.length = w.taken.length + activities.count .sample := by
  induction activities generalizing w with
  | nil => exact ⟨w, rfl, h, rfl, rfl⟩
  | cons a rest ih =>
    obtain ⟨v, hstep, hv, hlength, htaken⟩ := h.exists_step a
    obtain ⟨u, hrun, hu, hlength', htaken'⟩ := ih hv
    have hcount : ([a] ++ rest).count .sample = [a].count .sample + rest.count .sample :=
      List.count_append
    refine ⟨u, ?_, hu, hlength'.trans hlength, ?_⟩
    · rw [run, hstep]
      exact hrun
    · rw [htaken', htaken, ← List.singleton_append (l := rest), hcount, Nat.add_assoc]

/-- Whatever is entered and applied in between, a window of less than 64 bits keeps exactly the last
samples of those taken, and the next sample changes nothing about the device but its log, which
says something exactly if the sample counts errors. -/
theorem run_keeps_last {hostname : String} {interfaces : List Interface} {vlans : List Int}
    {logs : List LogEntry} {d : Device} (hd : Device.build hostname interfaces vlans logs = .ok d)
    (site : Site) (draws : Draws) {length : Int} (hpos : 0 ≤ length) (hlt : length < 2 ^ 63)
    (activities : List Activity) :
    ∃ first w, start ⟨d, site⟩ draws length = .ok first ∧ first.run activities = .ok w ∧
      w.taken.length = activities.count .sample ∧
      w.session.window.points = w.taken.drop (w.taken.length - length.toNat) ∧
      w.session.window.points.length = min w.taken.length length.toNat ∧
      w.session.window.latest? = w.session.window.points.getLast? ∧
      (w.session.window.latest? = none ↔ w.session.window.points = []) ∧
      (∀ p ∈ w.taken, 0 ≤ p.errors ∧ p.errors ≤ 4) ∧
      ∃ p v, w.step .sample = .ok v ∧ v.taken = w.taken ++ [p] ∧
        w.session.switch.device.Observed v.session.switch.device p := by
  let first : Watch := ⟨⟨⟨d, site⟩, ⟨length.toNat, []⟩⟩, draws, []⟩
  have hstart : start ⟨d, site⟩ draws length = .ok first := by
    rw [start, Window.ofLength_eq_ok hpos hlt]
    rfl
  have hfirst : first.Exact :=
    ⟨Device.build_wellFormed hd, List.drop_nil.symm, fun p hp => absurd hp List.not_mem_nil⟩
  obtain ⟨w, hrun, hw, hlength, htaken⟩ := hfirst.exists_run activities
  obtain ⟨p, v, hstep, -, -, hnext, hobserved⟩ := hw.exists_sample
  have hpoints : w.session.window.points = w.taken.drop (w.taken.length - length.toNat) := by
    rw [hw.keeps, hlength]
  refine ⟨first, w, hstart, hrun, htaken.trans (Nat.zero_add _), hpoints, ?_, rfl,
    List.getLast?_eq_none_iff, hw.errors_mem, p, v, hstep, hnext, hobserved⟩
  rw [hpoints, List.length_drop]
  omega

/-- Two of three samples are kept, with a line and a block between them; the first one counts errors
as its draws are the least. -/
theorem run_keeps_last_twoPorts :
    ∃ first w, start ⟨Device.twoPorts, Site.quiet⟩ (.fresh [0, 0, 0, 0] [3, 1]) 2 = .ok first ∧
      first.run [.sample, .line "shutdown et1", .sample,
        .block none ⟨"interface et1\nno shutdown", "cli", none⟩, .sample] = .ok w ∧
      w.taken.length = 3 ∧
      w.session.window.points = w.taken.drop (w.taken.length - (2 : Int).toNat) ∧
      w.session.window.points.length = min w.taken.length (2 : Int).toNat ∧
      w.session.window.latest? = w.session.window.points.getLast? ∧
      (w.session.window.latest? = none ↔ w.session.window.points = []) ∧
      (∀ p ∈ w.taken, 0 ≤ p.errors ∧ p.errors ≤ 4) ∧
      ∃ p v, w.step .sample = .ok v ∧ v.taken = w.taken ++ [p] ∧
        w.session.switch.device.Observed v.session.switch.device p :=
  run_keeps_last Device.twoPorts_build Site.quiet _ (by decide) (by decide) _

/-- There is not a window of every length: one of 64 bits is refused. -/
theorem start_refused :
    ¬ ∀ length : Int, 0 ≤ length →
      ∃ first, start ⟨Device.twoPorts, Site.quiet⟩ (.fresh [] []) length = .ok first := by
  intro h
  obtain ⟨first, hfirst⟩ := h (2 ^ 63) (by decide)
  have hrefused : start ⟨Device.twoPorts, Site.quiet⟩ (.fresh [] []) (2 ^ 63) =
      .error .tooLong := rfl
  rw [hrefused] at hfirst
  contradiction

end Watch

end LeafSwitch
