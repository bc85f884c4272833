import LeafSwitch.Program.Surroundings
import LeafSwitch.Switch

/-!
# Putting notices on record

Notices are put on record one by one. What their entries look like is decided by the clock, by the
ids and by the number of entries made before, and by nothing else of the site. Much of a site stays
as it is told once and for all.
-/

namespace LeafSwitch

/-- A site where nothing has happened yet. -/
def Site.quiet : Site := Program.surroundings 0 1 0 [] []

/-- Two sites that have been told the same once and for all. -/
structure Site.SameSetting (after before : Site) : Prop where
  /-- The environment is the same. -/
  env : after.env = before.env
  /-- The home directories are the same. -/
  homes : after.homes = before.homes
  /-- Values may nest as deep. -/
  nesting : after.nesting = before.nesting

theorem Site.SameSetting.refl (s : Site) : s.SameSetting s := ⟨rfl, rfl, rfl⟩

theorem Site.SameSetting.trans {s t u : Site} (h : t.SameSetting s) (h' : u.SameSetting t) :
    u.SameSetting s :=
  ⟨h'.env.trans h.env, h'.homes.trans h.homes, h'.nesting.trans h.nesting⟩

/-- Two sites at which the next notice is put on record in the same way. -/
structure Site.StampsAs (s t : Site) : Prop where
  /-- The ids are the same. -/
  ids : s.ids = t.ids
  /-- As many entries have been made. -/
  entries : s.entries = t.entries
  /-- The clocks show the same. -/
  clock : s.clock = t.clock

theorem Site.StampsAs.refl (s : Site) : s.StampsAs s := ⟨rfl, rfl, rfl⟩

theorem Site.StampsAs.trans {s t u : Site} (h : s.StampsAs t) (h' : t.StampsAs u) :
    s.StampsAs u :=
  ⟨h.ids.trans h'.ids, h.entries.trans h'.entries, h.clock.trans h'.clock⟩

/-- The journal has no part in putting notices on record. -/
theorem Site.reportAll_stampsAs (s : Site) (records : List Site.Record) :
    (s.reportAll records).StampsAs s := ⟨rfl, rfl, rfl⟩

/-- The stopwatch has no part in putting notices on record. -/
theorem Site.tick_stampsAs (s : Site) : s.tick.2.StampsAs s := ⟨rfl, rfl, rfl⟩

/-- One notice is put on record alike, and the next one will be. -/
theorem Site.StampsAs.stamp {s t : Site} (h : s.StampsAs t) (n : Notice) :
    (s.stamp n).1 = (t.stamp n).1 ∧ (s.stamp n).2.StampsAs (t.stamp n).2 := by
  refine ⟨?_, h.ids, congrArg (· + 1) h.entries, congrArg Site.Clock.advanced h.clock⟩
  simp only [Site.stamp, h.ids, h.entries, h.clock]

/-- Notices are put on record alike, and the next ones will be. -/
theorem Site.StampsAs.stampAll {s t : Site} (h : s.StampsAs t) (notices : List Notice) :
    (s.stampAll notices).1 = (t.stampAll notices).1 ∧
      (s.stampAll notices).2.StampsAs (t.stampAll notices).2 := by
  induction notices generalizing s t with
  | nil => exact ⟨rfl, h⟩
  | cons n rest ih =>
    obtain ⟨hentry, hsite⟩ := h.stamp n
    obtain ⟨hentries, hrest⟩ := ih hsite
    refine ⟨?_, hrest⟩
    simp only [Site.stampAll, hentry, hentries]

/-- Notices put on record in two rows are put on record as they are in one. -/
theorem Site.stampAll_append (s : Site) (a b : List Notice) :
    s.stampAll (a ++ b) =
      ((s.stampAll a).1 ++ ((s.stampAll a).2.stampAll b).1, ((s.stampAll a).2.stampAll b).2) := by
  induction a generalizing s with
  | nil => rfl
  | cons n rest ih => simp only [List.cons_append, Site.stampAll, ih]

/-- The entries tell the notices, in their order. -/
theorem Site.stampAll_notices (s : Site) (notices : List Notice) :
    (s.stampAll notices).1.map (·.notice) = notices := by
  induction notices generalizing s with
  | nil => rfl
  | cons n rest ih => simp only [Site.stampAll, List.map_cons, ih, Site.stamp]

/-- The times that the next readings of a clock show. -/
def Site.Clock.coming (c : Site.Clock) (count : Nat) : List Time.Instant :=
  (List.range' c.taken count).map c.readings

/-- The clock of a site where notices have been put on record has been read once for each. -/
theorem Site.stampAll_site (s : Site) (notices : List Notice) :
    (s.stampAll notices).2 =
      { s with
        entries := s.entries + notices.length
        clock := { s.clock with taken := s.clock.taken + notices.length } } := by
  induction notices generalizing s with
  | nil => rfl
  | cons n rest ih =>
    have hsite : (s.stampAll (n :: rest)).2 = (s.advanced.stampAll rest).2 := rfl
    have hentries : s.entries + 1 + rest.length = s.entries + (rest.length + 1) := by omega
    have htaken : s.clock.taken + 1 + rest.length = s.clock.taken + (rest.length + 1) := by omega
    rw [hsite, ih, List.length_cons, ← hentries, ← htaken]
    rfl

/-- The ids that a site gives to the next entries. -/
def Site.comingIds (s : Site) (count : Nat) : List String :=
  (List.range' s.entries count).map s.ids

/-- The entries bear the ids that the site gives one after the other. -/
theorem Site.stampAll_ids (s : Site) (notices : List Notice) :
    (s.stampAll notices).1.map (·.id) = s.comingIds notices.length := by
  induction notices generalizing s with
  | nil => rfl
  | cons n rest ih =>
    rw [Site.stampAll, List.map_cons, ih, comingIds, comingIds, List.length_cons,
      List.range'_succ, List.map_cons]
    rfl

/-- The entries bear the times that the clock shows one after the other. -/
theorem Site.stampAll_times (s : Site) (notices : List Notice) :
    (s.stampAll notices).1.map (·.time) = s.clock.coming notices.length := by
  induction notices generalizing s with
  | nil => rfl
  | cons n rest ih =>
    rw [Site.stampAll, List.map_cons, ih, Clock.coming, Clock.coming, List.length_cons,
      List.range'_succ, List.map_cons]
    rfl

/-- A change is made to the device in one step, with its notices on record. -/
theorem Switch.perform_device (sw : Switch) (c : Change) :
    (sw.perform c).device = sw.device.commit (c.update (sw.site.stampAll c.notices).1) := rfl

/-- Making a change puts its notices on record, and no others. -/
theorem Switch.perform_stampsAs (sw : Switch) (c : Change) :
    (sw.perform c).site.StampsAs (sw.site.stampAll c.notices).2 :=
  Site.reportAll_stampsAs _ _

end LeafSwitch
