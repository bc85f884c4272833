import LeafSwitch.Proofs.Session.Run

/-!
# Operations and files

Only the filing of a block touches a file. Whatever else happens to a switch leaves the files, the
choice of the audit file, the environment and the bounds of nesting alone.
-/

namespace LeafSwitch

/-- Two sites with the same files and the same ways to them. -/
structure Site.KeepsFiles (after before : Site) : Prop where
  /-- They have been told the same. -/
  setting : after.SameSetting before
  /-- The files are the same. -/
  files : after.files = before.files
  /-- The audit file is the same. -/
  auditFile : after.auditFile = before.auditFile

namespace Site.KeepsFiles

theorem refl (s : Site) : s.KeepsFiles s := ⟨.refl s, rfl, rfl⟩

theorem trans {s t u : Site} (h : t.KeepsFiles s) (h' : u.KeepsFiles t) : u.KeepsFiles s :=
  ⟨h.setting.trans h'.setting, h'.files.trans h.files, h'.auditFile.trans h.auditFile⟩

end Site.KeepsFiles

/-- Putting notices on record touches no file. -/
theorem Site.stampAll_keepsFiles (s : Site) (notices : List Notice) :
    (s.stampAll notices).2.KeepsFiles s := by
  induction notices generalizing s with
  | nil => exact .refl s
  | cons n rest ih =>
    have hstamp : (s.stamp n).2.KeepsFiles s := ⟨⟨rfl, rfl, rfl⟩, rfl, rfl⟩
    exact hstamp.trans (ih (s.stamp n).2)

namespace Switch

/-- Making a change touches no file. -/
theorem perform_keepsFiles (sw : Switch) (c : Change) :
    (sw.perform c).site.KeepsFiles sw.site := by
  have hcommit : (sw.perform c).site.KeepsFiles (sw.site.stampAll c.notices).2 :=
    ⟨⟨rfl, rfl, rfl⟩, rfl, rfl⟩
  exact (sw.site.stampAll_keepsFiles c.notices).trans hcommit

/-- Carrying out a command touches no file. -/
theorem execute_keepsFiles (sw : Switch) (c : Command) :
    (sw.execute c).site.KeepsFiles sw.site := by
  rw [execute]
  cases c.change? sw.device with
  | none => exact .refl sw.site
  | some change => exact sw.perform_keepsFiles change

/-- A line of the operator touches no file. -/
theorem interpret_keepsFiles (sw : Switch) (line : String) :
    (sw.interpret line).2.site.KeepsFiles sw.site := by
  let details := (Command.details sw.device line).map (Site.Record.debug commandChannel)
  let started : Switch := ⟨sw.device, sw.site.tick.2.reportAll details⟩
  have hstarted : started.site.KeepsFiles sw.site := ⟨⟨rfl, rfl, rfl⟩, rfl, rfl⟩
  have hfinish : (sw.interpret line).2.site.KeepsFiles
      (started.execute (Command.ofLine line)).site := ⟨⟨rfl, rfl, rfl⟩, rfl, rfl⟩
  exact (hstarted.trans (started.execute_keepsFiles _)).trans hfinish

/-- A sample touches no file. -/
theorem sample_keepsFiles (sw : Switch) (draws : Telemetry.Draws) :
    (sw.sample draws).2.2.site.KeepsFiles sw.site := by
  rw [sample]
  dsimp only
  split
  · exact ⟨⟨rfl, rfl, rfl⟩, rfl, rfl⟩
  · exact ⟨⟨rfl, rfl, rfl⟩, rfl, rfl⟩

/-- Staging and committing a block touches no file. -/
theorem applyStaged_keepsFiles {sw after : Switch} {block : List Directive} {r : Report}
    (h : sw.applyStaged block = .ok (r, after)) : after.site.KeepsFiles sw.site := by
  obtain ⟨t, _, _, rfl⟩ := exists_of_applyStaged h
  let site := sw.site.reportAll (t.details.map (Site.Record.debug blockChannel))
  have hsite : site.KeepsFiles sw.site := ⟨⟨rfl, rfl, rfl⟩, rfl, rfl⟩
  exact hsite.trans (perform_keepsFiles ⟨sw.device, site⟩ t.change)

/-- A block that is applied touches no file, as long as it is not filed. -/
theorem applyBlock_keepsFiles {sw told : Switch} {s : Submission} {r : Report}
    (h : sw.applyBlock none s = .ok (r, told)) : told.site.KeepsFiles sw.site := by
  obtain ⟨block, after, _, hstaged, rfl⟩ := exists_of_applyBlock h
  have hafter := applyStaged_keepsFiles hstaged
  have hticked : sw.site.tick.2.KeepsFiles sw.site := ⟨⟨rfl, rfl, rfl⟩, rfl, rfl⟩
  exact (hticked.trans hafter).trans ⟨⟨rfl, rfl, rfl⟩, rfl, rfl⟩

/-- A block is applied in the same way whether it is filed or not. -/
theorem applyBlock_track (sw : Switch) (tracker : Option Tracker) (s : Submission) :
    sw.applyBlock tracker s =
      (sw.applyBlock none s).map fun (r, told) => (r, told.track tracker s r) := by
  rw [applyBlock, applyBlock]
  cases (directivesOf s.block).mapError BlockError.line with
  | error e => rfl
  | ok block =>
    simp only [bind, Except.bind]
    cases applyStaged ⟨sw.device, sw.site.tick.2⟩ block with
    | error e => rfl
    | ok p => rfl

end Switch

end LeafSwitch
