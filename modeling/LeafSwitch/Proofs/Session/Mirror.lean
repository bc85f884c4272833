import LeafSwitch.Proofs.Device.Log
import LeafSwitch.Proofs.Session.Files
import LeafSwitch.Proofs.Site.Surroundings

/-!
# The journal repeats the device log

Entries come into the device log in batches, each put on record just before it is committed, and the
journal repeats them after the commit. Whatever is done to a switch, other than making an update
from outside, gives its entries the next ids of the site and readings of the clock in their order,
and has the journal repeat just these entries.
-/

namespace LeafSwitch

/-- Whether a record of the journal repeats an entry of the device log. -/
def Site.Record.isRepeat (r : Site.Record) : Bool :=
  r.channel == "stratus_sim.device.state"

/-- The records that repeat entries are just these. -/
theorem Site.Record.filter_ofEntry (entries : List LogEntry) :
    (entries.map Site.Record.ofEntry).filter Site.Record.isRepeat =
      entries.map Site.Record.ofEntry := by
  rw [List.filter_eq_self]
  intro r hr
  obtain ⟨e, _, rfl⟩ := List.mem_map.mp hr
  rfl

/-- The record of a timed section repeats no entry. -/
theorem Site.isRepeat_timingRecord (operation hostname : String) (millis : Number.Binary64)
    (failure : Option String) (extra : List (String × String)) :
    (timingRecord operation hostname millis failure extra).isRepeat = false := by
  cases failure <;> rfl

/-- The next readings of a clock are those next now and those next then. -/
theorem Site.Clock.coming_add (c : Site.Clock) (m n : Nat) :
    c.coming (m + n) = c.coming m ++ Site.Clock.coming { c with taken := c.taken + m } n := by
  rw [coming, ← List.range'_append_1, List.map_append]
  rfl

/-- The next ids of a site are those next now and those next then. -/
theorem Site.comingIds_add (s : Site) (m n : Nat) :
    s.comingIds (m + n) =
      s.comingIds m ++ Site.comingIds { s with entries := s.entries + m } n := by
  rw [comingIds, ← List.range'_append_1, List.map_append]
  rfl

/-- The ids of a site decide which come next. -/
theorem Site.comingIds_congr {s t : Site} (hids : s.ids = t.ids) (hentries : s.entries = t.entries)
    (count : Nat) : s.comingIds count = t.comingIds count := by
  rw [comingIds, hids, hentries, comingIds]

/-- A site gives no id to two of the entries to come. -/
def Site.HasFreshIds (s : Site) : Prop :=
  ∀ m n, s.entries ≤ m → s.entries ≤ n → s.ids m = s.ids n → m = n

/-- The next ids of a site that has fresh ones are different. -/
theorem Site.HasFreshIds.nodup_comingIds {s : Site} (h : s.HasFreshIds) (count : Nat) :
    (s.comingIds count).Nodup := by
  rw [comingIds, List.nodup_iff_pairwise_ne, List.pairwise_map]
  refine List.Pairwise.imp_of_mem ?_ List.pairwise_lt_range'
  intro m n hm hn hlt hid
  exact Nat.ne_of_lt hlt (h m n (List.mem_range'_1.mp hm).1 (List.mem_range'_1.mp hn).1 hid)

/-- A clock that does not run backwards from now on. -/
def Site.Clock.Forward (c : Site.Clock) : Prop :=
  ∀ m n, c.taken ≤ m → m ≤ n → (c.readings m).micros ≤ (c.readings n).micros

/-- The next readings of a clock are not before now. -/
theorem Site.Clock.Forward.now_le {c : Site.Clock} (hc : c.Forward) {count : Nat}
    {time : Time.Instant} (h : time ∈ c.coming count) : c.now.micros ≤ time.micros := by
  obtain ⟨n, hn, rfl⟩ := List.mem_map.mp h
  exact hc c.taken n le_rfl (List.mem_range'_1.mp hn).1

/-- The next readings of a clock are in order. -/
theorem Site.Clock.Forward.coming_ordered {c : Site.Clock} (hc : c.Forward) (count : Nat) :
    (c.coming count).Pairwise fun s t => s.micros ≤ t.micros := by
  rw [coming, List.pairwise_map]
  refine List.Pairwise.imp_of_mem ?_ List.pairwise_lt_range'
  exact fun hm _ hlt => hc _ _ (List.mem_range'_1.mp hm).1 (Nat.le_of_lt hlt)

/-- What happens to a switch puts entries on record, with a number of readings of the clock. -/
structure Switch.PutsOnRecord (before after : Switch) (entries : List LogEntry) (readings : Nat) :
    Prop where
  /-- The entries are appended to the device log. -/
  logs : after.device.logs = before.device.logs ++ entries
  /-- The journal is continued, and repeats the entries. -/
  journal : ∃ records, after.site.journal = before.site.journal ++ records ∧
    records.filter Site.Record.isRepeat = entries.map Site.Record.ofEntry
  /-- The site gives the same ids. -/
  given : after.site.ids = before.site.ids
  /-- The entries are counted. -/
  made : after.site.entries = before.site.entries + entries.length
  /-- The entries have the next ids. -/
  ids : entries.map (·.id) = before.site.comingIds entries.length
  /-- The clock is read. -/
  clock : after.site.clock =
    { before.site.clock with taken := before.site.clock.taken + readings }
  /-- The times of the entries are among the readings, in their order. -/
  times : (entries.map (·.time)).Sublist (before.site.clock.coming readings)

namespace Switch

/-- What puts nothing on record leaves the device log alone, does not read the clock, and reports
nothing that repeats an entry. -/
theorem PutsOnRecord.nothing {before after : Switch}
    (hlogs : after.device.logs = before.device.logs)
    (hsite : after.site.StampsAs before.site) (records : List Site.Record)
    (hjournal : after.site.journal = before.site.journal ++ records)
    (hother : ∀ r ∈ records, r.isRepeat = false) : PutsOnRecord before after [] 0 where
  logs := hlogs.trans (List.append_nil _).symm
  journal := ⟨records, hjournal, List.filter_eq_nil_iff.mpr fun r hr => by
    rw [hother r hr]
    exact Bool.false_ne_true⟩
  given := hsite.ids
  made := hsite.entries
  ids := rfl
  clock := hsite.clock
  times := List.nil_sublist _

namespace PutsOnRecord

theorem refl (sw : Switch) : PutsOnRecord sw sw [] 0 :=
  .nothing rfl (.refl _) [] (List.append_nil _).symm fun _ hr => absurd hr List.not_mem_nil

/-- What is done in two steps puts on record what the first does, and then what the second does. -/
theorem trans {a b c : Switch} {first second : List LogEntry} {m n : Nat}
    (h : PutsOnRecord a b first m) (h' : PutsOnRecord b c second n) :
    PutsOnRecord a c (first ++ second) (m + n) where
  logs := by rw [h'.logs, h.logs, List.append_assoc]
  journal := by
    obtain ⟨records, hjournal, hrepeats⟩ := h.journal
    obtain ⟨records', hjournal', hrepeats'⟩ := h'.journal
    refine ⟨records ++ records', ?_, ?_⟩
    · rw [hjournal', hjournal, List.append_assoc]
    · rw [List.filter_append, hrepeats, hrepeats', List.map_append]
  given := h'.given.trans h.given
  made := by rw [h'.made, h.made, List.length_append, Nat.add_assoc]
  ids := by
    rw [List.map_append, h.ids, h'.ids, List.length_append, Site.comingIds_add]
    exact congrArg _ (Site.comingIds_congr (t := { a.site with
      entries := a.site.entries + first.length }) h.given h.made _)
  clock := by rw [h'.clock, h.clock, Nat.add_assoc]
  times := by
    have hsecond := h'.times
    rw [h.clock] at hsecond
    rw [List.map_append, Site.Clock.coming_add]
    exact h.times.append hsecond

/-- Entries that are put on record have times within the calendar. -/
theorem time_inRange {before after : Switch} {entries : List LogEntry} {readings : Nat}
    (h : PutsOnRecord before after entries readings) {e : LogEntry} (he : e ∈ entries) :
    e.time.inRange = true := by
  obtain ⟨n, _, htime⟩ := List.mem_map.mp (h.times.subset (List.mem_map_of_mem he))
  rw [← htime]
  exact before.site.clock.inRange n

/-- Entries that are put on record keep the log in order, where their ids are fresh, and no entry is
younger than the clock. -/
theorem inOrder {before after : Switch} {entries : List LogEntry} {readings : Nat}
    (h : PutsOnRecord before after entries readings) (hlogs : LogEntry.InOrder before.device.logs)
    (hids : before.site.HasFreshIds)
    (hfresh : ∀ e ∈ before.device.logs, ∀ n, before.site.entries ≤ n → before.site.ids n ≠ e.id)
    (hclock : before.site.clock.Forward)
    (hsince : ∀ e ∈ before.device.logs, e.time.micros ≤ before.site.clock.now.micros) :
    LogEntry.InOrder after.device.logs := by
  have hentries : LogEntry.InOrder entries := by
    refine ⟨?_, ?_⟩
    · rw [h.ids]
      exact hids.nodup_comingIds _
    · rw [← List.pairwise_map (f := LogEntry.time) (R := fun s t => s.micros ≤ t.micros)]
      exact (hclock.coming_ordered readings).sublist h.times
  rw [h.logs]
  refine hlogs.append hentries (fun x hx y hy => ?_) (fun x hx y hy => ?_)
  · have hid : y.id ∈ before.site.comingIds entries.length := by
      rw [← h.ids]
      exact List.mem_map_of_mem hy
    obtain ⟨n, hn, hy'⟩ := List.mem_map.mp hid
    rw [← hy']
    exact (hfresh x hx n (List.mem_range'_1.mp hn).1).symm
  · have htime : y.time ∈ before.site.clock.coming readings :=
      h.times.subset (List.mem_map_of_mem hy)
    exact Int.le_trans (hsince x hx) (hclock.now_le htime)

end PutsOnRecord

/-! ### Single steps -/

/-- Making a change puts its notices on record, one reading of the clock for each. -/
theorem perform_putsOnRecord (sw : Switch) (c : Change) :
    PutsOnRecord sw (sw.perform c) (sw.site.stampAll c.notices).1 c.notices.length := by
  have hlength : (sw.site.stampAll c.notices).1.length = c.notices.length := by
    rw [← sw.site.stampAll_notices c.notices, List.length_map, sw.site.stampAll_notices]
  have hsite : (sw.perform c).site = (sw.site.stampAll c.notices).2.reportAll
      ((sw.site.stampAll c.notices).1.map Site.Record.ofEntry) := rfl
  rw [sw.site.stampAll_site] at hsite
  refine ⟨?_, ⟨_, ?_, Site.Record.filter_ofEntry _⟩, ?_, ?_, ?_, ?_, ?_⟩
  · rw [perform_device, Device.commit_logs]
    rfl
  · rw [hsite]
    rfl
  · rw [hsite]
    rfl
  · rw [hsite, hlength]
    rfl
  · rw [hlength]
    exact sw.site.stampAll_ids c.notices
  · rw [hsite]
    rfl
  · rw [sw.site.stampAll_times]

/-- Carrying out a command puts the notices of its change on record. -/
theorem execute_putsOnRecord (sw : Switch) (c : Command) :
    ∃ entries readings, PutsOnRecord sw (sw.execute c) entries readings := by
  rw [execute]
  cases c.change? sw.device with
  | none => exact ⟨[], 0, .refl sw⟩
  | some change => exact ⟨_, _, sw.perform_putsOnRecord change⟩

/-- A line of the operator puts the notices of its command on record. -/
theorem interpret_putsOnRecord (sw : Switch) (line : String) :
    ∃ entries readings, PutsOnRecord sw (sw.interpret line).2 entries readings := by
  let details := (Command.details sw.device line).map (Site.Record.debug commandChannel)
  let started : Switch := ⟨sw.device, sw.site.tick.2.reportAll details⟩
  have hstarted : PutsOnRecord sw started [] 0 := by
    refine .nothing rfl ⟨rfl, rfl, rfl⟩ details rfl fun r hr => ?_
    obtain ⟨text, _, rfl⟩ := List.mem_map.mp hr
    rfl
  obtain ⟨entries, readings, hdone⟩ := started.execute_putsOnRecord (Command.ofLine line)
  have hfinish : PutsOnRecord (started.execute (Command.ofLine line)) (sw.interpret line).2 [] 0 :=
    .nothing rfl ⟨rfl, rfl, rfl⟩ [_] rfl (List.forall_mem_singleton.mpr
      (Site.isRepeat_timingRecord ..))
  exact ⟨_, _, (hstarted.trans hdone).trans hfinish⟩

/-- Staging and committing a block puts the notices of its change on record. -/
theorem applyStaged_putsOnRecord {sw after : Switch} {block : List Directive} {r : Report}
    (h : sw.applyStaged block = .ok (r, after)) :
    ∃ entries readings, PutsOnRecord sw after entries readings := by
  obtain ⟨t, _, _, rfl⟩ := exists_of_applyStaged h
  let details := t.details.map (Site.Record.debug blockChannel)
  let told : Switch := ⟨sw.device, sw.site.reportAll details⟩
  have htold : PutsOnRecord sw told [] 0 := by
    refine .nothing rfl ⟨rfl, rfl, rfl⟩ details rfl fun r hr => ?_
    obtain ⟨text, _, rfl⟩ := List.mem_map.mp hr
    rfl
  exact ⟨_, _, htold.trans (told.perform_putsOnRecord t.change)⟩

/-- Filing a block reads the clock, and puts nothing on record. -/
theorem track_putsOnRecord (sw : Switch) (tracker : Option Tracker) (s : Submission) (r : Report) :
    ∃ readings, PutsOnRecord sw (sw.track tracker s r) [] readings := by
  cases tracker with
  | none => exact ⟨0, .refl sw⟩
  | some t =>
    let read : Switch := ⟨sw.device, { sw.site with clock := sw.site.clock.advanced }⟩
    have hread : PutsOnRecord sw read [] 1 :=
      ⟨(List.append_nil _).symm, ⟨[], (List.append_nil _).symm, rfl⟩, rfl, rfl, rfl, rfl,
        List.nil_sublist _⟩
    have hfiled : PutsOnRecord read (sw.track (some t) s r) [] 0 := by
      rw [track, Site.file]
      dsimp only
      rw [Site.fileRecord]
      split
      · exact .nothing rfl ⟨rfl, rfl, rfl⟩ [] (List.append_nil _).symm fun _ hr =>
          absurd hr List.not_mem_nil
      · exact .nothing rfl ⟨rfl, rfl, rfl⟩ [_] rfl (List.forall_mem_singleton.mpr rfl)
    exact ⟨_, hread.trans hfiled⟩

/-- A block that is applied puts the notices of its change on record. -/
theorem applyBlock_putsOnRecord {sw told : Switch} {tracker : Option Tracker} {s : Submission}
    {r : Report} (h : sw.applyBlock tracker s = .ok (r, told)) :
    ∃ entries readings, PutsOnRecord sw told entries readings := by
  obtain ⟨block, after, _, hstaged, rfl⟩ := exists_of_applyBlock h
  have hticked : PutsOnRecord sw ⟨sw.device, sw.site.tick.2⟩ [] 0 :=
    .nothing rfl ⟨rfl, rfl, rfl⟩ [] (List.append_nil _).symm fun _ hr => absurd hr List.not_mem_nil
  obtain ⟨entries, readings, hafter⟩ := applyStaged_putsOnRecord hstaged
  let site := (after.site.finish "config_apply" sw.device.hostname sw.site.tick.1 none []).report
    (.info blockChannel ("Applied config block from " ++ s.source ++ ": " ++ r.summary))
  have hreported : PutsOnRecord after ⟨after.device, site⟩ [] 0 := by
    refine .nothing rfl ⟨rfl, rfl, rfl⟩ _ (List.append_assoc ..) fun r hr => ?_
    rcases List.mem_append.mp hr with hr | hr
    · rw [List.mem_singleton.mp hr]
      rfl
    · rw [List.mem_singleton.mp hr]
      rfl
  obtain ⟨_, htracked⟩ := track_putsOnRecord ⟨after.device, site⟩ tracker s r
  exact ⟨_, _, ((hticked.trans hafter).trans hreported).trans htracked⟩

end Switch

namespace Session

end Session

end LeafSwitch
