import LeafSwitch.Proofs.Audit.Trail
import LeafSwitch.Proofs.Session.Ledger

/-!
# The trail of a session

From the moment that an audit file is set up, it holds the records of the blocks that have been
applied with someone to file them, one after the other. So the trail gives the last of them that are
asked for, newest first.
-/

namespace LeafSwitch

/-- The audit file of a session is at a path and holds some records that can be read back, and the
names of the device are such that this stays so. -/
structure Session.OnRecord (s : Session) (before : Site) (path : String)
    (records : List Audit.Record) : Prop where
  /-- The device is well-formed. -/
  wellFormed : s.switch.device.WellFormed
  /-- Its names are whole. -/
  names : s.switch.device.HasWholeNames
  /-- The site has been told what it was told before. -/
  setting : s.switch.site.SameSetting before
  /-- The audit file is at the path. -/
  auditFile : s.switch.site.auditFile = some path
  /-- The file holds the records. -/
  file : s.switch.site.files.read path = .ok (String.ofList (Audit.fileOf records))
  /-- The records can be read back, as long as JSON may nest as deep as they do. -/
  plain : ∀ r ∈ records, ∀ room, r.IsPlain (room + 1)

namespace Session.OnRecord

variable {s t : Session} {before : Site} {path : String}
  {records : List Audit.Record}

/-- What touches no file leaves the records as they are. -/
theorem of_keepsFiles (h : s.OnRecord before path records) (hd : t.switch.device.WellFormed)
    (hnames : t.switch.device.HasWholeNames)
    (hkept : t.switch.site.KeepsFiles s.switch.site) : t.OnRecord before path records where
  wellFormed := hd
  names := hnames
  setting := h.setting.trans hkept.setting
  auditFile := hkept.auditFile.trans h.auditFile
  file := hkept.files ▸ h.file
  plain := h.plain

/-- A record that is filed stands behind those before it. -/
theorem fileRecord {sw : Switch} {window : Telemetry.Window}
    (h : Session.OnRecord ⟨sw, window⟩ before path records) {r : Audit.Record}
    (hr : ∀ room, r.IsPlain (room + 1)) :
    Session.OnRecord ⟨⟨sw.device, sw.site.fileRecord r⟩, window⟩ before path
      (records ++ [r]) := by
  obtain ⟨hfile, hsetting, hread⟩ := Site.read_fileRecord h.auditFile h.file r
  refine ⟨h.wellFormed, h.names, h.setting.trans hsetting, hfile, ?_, ?_⟩
  · have htext : String.ofList (Audit.fileOf records) ++ (r.toJson ++ "\n") =
        String.ofList (Audit.fileOf (records ++ [r])) := by
      rw [Audit.fileOf_concat, String.ofList_append, String.ofList_append, String.ofList_toList]
    rw [← htext]
    exact hread
  · intro q hq
    rcases List.mem_append.mp hq with hq | hq
    · exact h.plain q hq
    · rw [List.mem_singleton.mp hq]
      exact hr

end Session.OnRecord

/-- A clock that has been read shows the reading. -/
theorem Site.Clock.last_advanced (c : Site.Clock) : c.advanced.last = c.now := by
  rw [last, advanced]
  dsimp only
  rw [Nat.add_sub_cancel]
  rfl

/-- Writing a record takes no reading of the clock. -/
theorem Site.fileRecord_clock (s : Site) (r : Audit.Record) :
    (s.fileRecord r).clock = s.clock := by
  rw [fileRecord]
  split
  · rfl
  · rfl

/-- What a site has been told once and for all decides which directory the audit file is in where
none is given. -/
theorem Site.auditDirectory_congr {s t : Site} (h : t.SameSetting s) :
    t.auditDirectory none = s.auditDirectory none := by
  have hhome : t.homeOf = s.homeOf := by
    funext name
    simp only [homeOf, fromEnv?, h.env, h.homes]
  simp only [auditDirectory, expanded, fromEnv?, hhome, h.env]

/-- What is filed about a submission is what is to be on record about it. -/
theorem Submission.filing_record (b : Submission) (hostname : String) (r : Report)
    (fallback : Option String) (time : Time.Instant) :
    (b.filing hostname r).record fallback time =
      (Applied.mk b r hostname fallback time).record := by
  have hname : (((some hostname).filter (· != "")).getD (fallback.getD "")) =
      (Applied.mk b r hostname fallback time).name := by
    rw [Applied.name]
    by_cases hempty : hostname = ""
    · rw [hempty]
      rfl
    · have hkept : (hostname != "") = true := bne_iff_ne.mpr hempty
      rw [if_neg hempty, Option.filter_some, hkept, if_pos rfl, Option.getD_some]
  have hoperation : (if (b.intent.getD "").isEmpty then "config_apply" else "intent_apply") =
      (Applied.mk b r hostname fallback time).operation := by
    rw [Applied.operation]
    simp only [String.isEmpty_iff]
  rw [Submission.filing, Audit.Filing.record, Applied.record]
  dsimp only
  rw [hname, hoperation]
  rfl

/-- What is to be on record about a block is plain on a device with whole names. -/
theorem Switch.Applies.record_isPlain {sw after : Switch} {block : List Directive} {t : Staging}
    {r : Report} {b : Submission} {fallback : Option String} (hd : sw.device.WellFormed)
    (h : sw.Applies block t r after) (hnames : sw.device.HasWholeNames)
    (hblock : directivesOf b.block = .ok block) (hb : b.IsReadable)
    (hfallback : ∀ name ∈ fallback, Text.Whole name) (time : Time.Instant) (room : Nat) :
    (Applied.mk b r after.device.hostname fallback time).record.IsPlain (room + 1) := by
  have hafter : after.device.HasWholeNames := h.hasWholeNames hd hnames
  have hlength : block.length < Value.shownLimit := by
    obtain ⟨_, hread, hlength⟩ := exists_directivesOf b.block
    obtain rfl := Except.ok.inj (hblock.symm.trans hread)
    exact hlength ▸ hb.lines
  have hname : Text.Whole (Applied.mk b r after.device.hostname fallback time).name := by
    rw [Applied.name]
    dsimp only
    split
    · cases hgiven : fallback with
      | none => exact Text.Ascii.whole (s := "") (by decide)
      | some name => exact hfallback name hgiven
    · exact hafter.hostname
  refine (Applied.record_isDeclared hb hname ?_ ?_ ?_
    (h.created_natAbs_lt hd hblock)).isPlain room
  · dsimp only
    rw [h.lines]
    exact hlength
  · exact Nat.lt_of_le_of_lt h.natAbs_applied_le hlength
  · intro n hn
    obtain ⟨found, hchanged, _, hsub⟩ := h.changed
    dsimp only at hn
    rw [hchanged] at hn
    obtain ⟨i, hi, rfl⟩ := List.mem_map.mp hn
    exact hafter.interfaces i (hsub hi)

namespace Session

variable {s : Session} {before : Site} {path : String}
  {records : List Audit.Record}

/-- A block that is applied with someone to file it is put on record. -/
theorem OnRecord.exists_filed (h : s.OnRecord before path records) (tracker : Tracker)
    {b : Submission} (hb : b.IsReadable) (hname : ∀ name ∈ tracker.hostname, Text.Whole name) :
    ∃ a t, s.applied? (.block (some tracker) b) = some a ∧
      s.operate (.block (some tracker) b) = .ok t ∧
      t.OnRecord before path (records ++ [a.record]) := by
  obtain ⟨block, staged, r, told, hblock, happly, happlies⟩ :=
    Switch.exists_applyBlock h.wellFormed none b
  have htracked : s.switch.applyBlock (some tracker) b =
      .ok (r, told.track (some tracker) b r) := by
    rw [Switch.applyBlock_track, happly]
    rfl
  let a : Applied := ⟨b, r, told.device.hostname, tracker.hostname, told.site.clock.now⟩
  -- The block is applied as it is without a tracker, and filed as the last thing.
  have hfiled : told.track (some tracker) b r = ⟨told.device,
      { told.site with clock := told.site.clock.advanced }.fileRecord a.record⟩ := by
    rw [← Submission.filing_record]
    rfl
  have happlied : s.applied? (.block (some tracker) b) = some a := by
    have hclock : (told.track (some tracker) b r).site.clock.last = told.site.clock.now := by
      rw [hfiled, Site.fileRecord_clock]
      exact told.site.clock.last_advanced
    rw [applied?, htracked]
    dsimp only
    rw [hclock, Switch.track_device]
  refine ⟨a, _, happlied, by rw [operate, htracked]; rfl, ?_⟩
  rw [hfiled]
  have htold : Session.OnRecord
      ⟨⟨told.device, { told.site with clock := told.site.clock.advanced }⟩, s.window⟩
      before path records := by
    have hkept : told.site.KeepsFiles s.switch.site := Switch.applyBlock_keepsFiles happly
    have hnames : told.device.HasWholeNames := happlies.hasWholeNames h.wellFormed h.names
    exact h.of_keepsFiles (happlies.wellFormed h.wellFormed) hnames
      (hkept.trans ⟨⟨rfl, rfl, rfl⟩, rfl, rfl⟩)
  exact htold.fileRecord (happlies.record_isPlain h.wellFormed h.names hblock hb hname _)

/-- A session goes on after any operation. Where it applies a block with someone to file it, and
only there, it adds to what is on record. -/
theorem OnRecord.exists_operate (h : s.OnRecord before path records) {o : Operation}
    (ho : o.IsReadable) :
    ∃ t, s.operate o = .ok t ∧
      t.OnRecord before path (records ++ (s.applied? o).toList.map Applied.record) ∧
      (s.applied? o).isSome = o.isFiled := by
  have hsame : ∀ {t : Session}, t.OnRecord before path records →
      t.OnRecord before path (records ++ (none : Option Applied).toList.map Applied.record) :=
    fun ht => (List.append_nil records).symm ▸ ht
  cases o with
  | line text =>
    have hwf : (s.switch.interpret text).2.device.WellFormed := by
      obtain ⟨u, hu⟩ := s.switch.interpret_device text
      rw [hu]
      exact h.wellFormed.commit u
    exact ⟨_, rfl, hsame (h.of_keepsFiles hwf (Switch.interpret_hasWholeNames h.names ho)
      (s.switch.interpret_keepsFiles text)), rfl⟩
  | block tracker b =>
    cases tracker with
    | none =>
      obtain ⟨_, _, r, told, _, happly, happlies⟩ := Switch.exists_applyBlock h.wellFormed none b
      have htold : Session.OnRecord ⟨told, s.window⟩ before path records :=
        h.of_keepsFiles (happlies.wellFormed h.wellFormed)
          (happlies.hasWholeNames h.wellFormed h.names) (Switch.applyBlock_keepsFiles happly)
      exact ⟨⟨told, s.window⟩, by rw [operate, happly]; rfl, hsame htold, rfl⟩
    | some tracker =>
      obtain ⟨a, t, happlied, hstep, ht⟩ := h.exists_filed tracker ho.1 (ho.2 tracker rfl)
      rw [happlied]
      exact ⟨t, hstep, ht, rfl⟩
  | update u =>
    exact ⟨_, rfl, hsame (h.of_keepsFiles (h.wellFormed.commit u) (h.names.commit ho)
      ⟨⟨rfl, rfl, rfl⟩, rfl, rfl⟩), rfl⟩
  | note n =>
    exact ⟨_, rfl, hsame (h.of_keepsFiles (h.wellFormed.append _)
      ⟨h.names.hostname, h.names.interfaces⟩ ⟨⟨rfl, rfl, rfl⟩, rfl, rfl⟩), rfl⟩
  | sample draws =>
    have hdevice : (s.switch.sample draws).2.2.device.WellFormed ∧
        (s.switch.sample draws).2.2.device.HasWholeNames := by
      rcases s.switch.sample_device draws with hdevice | ⟨e, hdevice⟩
      · rw [hdevice]
        exact ⟨h.wellFormed, h.names⟩
      · rw [hdevice]
        exact ⟨h.wellFormed.append e, h.names.hostname, h.names.interfaces⟩
    exact ⟨_, rfl, hsame (h.of_keepsFiles hdevice.1 hdevice.2
      (s.switch.sample_keepsFiles draws)), rfl⟩

/-- A session goes on after any operations, and the blocks that they apply with someone to file them
are put on record, each of them, in their order. -/
theorem OnRecord.exists_run (h : s.OnRecord before path records) {ops : List Operation}
    (hops : ∀ o ∈ ops, o.IsReadable) :
    ∃ t, s.run ops = .ok t ∧
      t.OnRecord before path (records ++ (s.applies ops).map Applied.record) ∧
      (s.applies ops).length = ops.countP Operation.isFiled := by
  -- By induction on the operations. What is on record already may be anything, for a block that is
  -- filed adds to it.
  induction ops generalizing s records with
  | nil => exact ⟨s, rfl, (List.append_nil records).symm ▸ h, rfl⟩
  | cons o rest ih =>
    obtain ⟨t, hstep, ht, hfiled⟩ := h.exists_operate (hops o List.mem_cons_self)
    obtain ⟨u, hrun, hu, hcount⟩ := ih ht fun o' ho' => hops o' (List.mem_cons_of_mem o ho')
    have happlies : s.applies (o :: rest) = (s.applied? o).toList ++ t.applies rest := by
      rw [applies, hstep]
    refine ⟨u, ?_, ?_, ?_⟩
    · rw [run, hstep]
      exact hrun
    · rw [happlies, List.map_append, ← List.append_assoc]
      exact hu
    · rw [happlies, List.length_append, hcount, List.countP_cons, Nat.add_comm, ← hfiled]
      cases s.applied? o with
      | none => rfl
      | some a => rfl

/-- Where blocks are on record, the trail gives the last of them that are asked for. -/
theorem OnRecord.recentChanges_eq {all : List Applied}
    (h : s.OnRecord before path (all.map Applied.record)) (hroom : 2 ≤ before.nesting.json)
    (given : Option String)
    (hread : s.switch.site.files.read
      (given.getD (Site.Path.joined (s.switch.site.auditDirectory none) Audit.fileName)) =
        .ok (String.ofList (Audit.fileOf (all.map Applied.record))))
    (hostname operation : Option String) {limit : Nat} (hlimit : 0 < limit) :
    s.switch.site.recentChanges given hostname operation limit = .ok
      (((all.filter (·.isWanted hostname operation)).reverse.take limit).map Applied.record) := by
  have hpasses : (fun r : Audit.Record => r.isWanted hostname operation) ∘ Applied.record =
      (·.isWanted hostname operation) :=
    funext fun a => a.passes_record hostname operation
  obtain ⟨room, hinner⟩ := Nat.exists_eq_add_of_le' hroom
  rw [← h.setting.nesting] at hinner
  rw [Site.recentChanges_eq hinner rfl hread (fun r hr => h.plain r hr room) hostname operation
    (Int.ofNat_lt.mpr hlimit), List.filter_map, hpasses, ← List.map_reverse, ← List.map_take,
    Int.toNat_natCast]

/-- Once an audit file is set up where nothing is written yet, nothing is on record. -/
theorem onRecord_of_openAudit {d : Device} (hd : d.WellFormed) (hnames : d.HasWholeNames)
    {site opened : Site} {directory : Option String}
    (hopen : site.openAudit directory = .ok (path, opened))
    (hempty : opened.files.textAt path = "") (window : Telemetry.Window) :
    OnRecord ⟨⟨d, opened⟩, window⟩ site path [] := by
  obtain ⟨_, hfile, hsetting, hread⟩ := Site.read_of_openAudit hopen hempty
  exact ⟨hd, hnames, hsetting, hfile, hread, fun r hr => absurd hr List.not_mem_nil⟩

/-- The trail reads back every block of a session that has been applied with someone to file it.
Such blocks are as many as the session is asked to apply. The last of them that are asked for are
given, newest first, with what the report on each has told, where JSON may nest as deep as a list in
a record. The audit file is found by its path, and by the environment where that has named its
directory, unless the directory is too long as it is spelled. -/
theorem trail_reads_back {hostname : String} {interfaces : List Interface} {vlans : List Int}
    {logs : List LogEntry} {d : Device} (hd : Device.build hostname interfaces vlans logs = .ok d)
    (hnames : d.HasWholeNames) {site opened : Site} {directory : Option String} {path : String}
    (hopen : site.openAudit directory = .ok (path, opened))
    (hempty : opened.files.textAt path = "") (hroom : 2 ≤ site.nesting.json)
    (window : Telemetry.Window) {ops : List Operation} (hops : ∀ o ∈ ops, o.IsReadable) :
    ∃ t : Session, Session.run ⟨⟨d, opened⟩, window⟩ ops = .ok t ∧
      (Session.applies ⟨⟨d, opened⟩, window⟩ ops).length = ops.countP Operation.isFiled ∧
      ∀ given : Option String,
        given = some path ∨ given = none ∧ directory = none ∧
          (Text.sent (Site.Path.joined (site.auditDirectory none) Audit.fileName)).utf8ByteSize ≤
            Site.pathLimit →
        ∀ (hostname operation : Option String) (limit : Nat), 0 < limit →
          t.switch.site.recentChanges given hostname operation limit = .ok
            ((((Session.applies ⟨⟨d, opened⟩, window⟩ ops).filter
              (·.isWanted hostname operation)).reverse.take limit).map Applied.record) := by
  have hstart : OnRecord ⟨⟨d, opened⟩, window⟩ site path [] :=
    onRecord_of_openAudit (Device.build_wellFormed hd) hnames hopen hempty window
  obtain ⟨t, hrun, ht, hcount⟩ := hstart.exists_run hops
  rw [List.nil_append] at ht
  refine ⟨t, hrun, hcount, fun given hgiven hostname operation limit hlimit => ?_⟩
  refine ht.recentChanges_eq hroom given ?_ hostname operation hlimit
  rcases hgiven with rfl | ⟨rfl, rfl, hshort⟩
  · exact ht.file
  · obtain ⟨place, hspot⟩ := Site.Files.read_eq_ok_iff.mp ht.file
    rw [Option.getD_none, Site.auditDirectory_congr ht.setting]
    rw [(Site.read_of_openAudit hopen hempty).1] at hspot
    exact Site.Files.read_eq_ok_iff.mpr
      ⟨place, Site.Files.spot_joined Site.isPlain_fileName hspot hshort⟩

/-- Two blocks with someone to file them, with a new name for the device and a block that nobody
files between them. -/
def twoApplies : List Operation :=
  [.block (some ⟨none⟩) Submission.turning, .line "hostname spine1", .block none Submission.turning,
    .block (some ⟨none⟩) ⟨"interface et2\nswitchport access vlan 20", "gemini", some "et2 to 20"⟩]

/-- The texts of the two blocks and of what stands between them can be read back. -/
theorem twoApplies_isReadable : ∀ o ∈ twoApplies, o.IsReadable := by
  have hascii : Text.Ascii Submission.turning.block ∧ Text.Ascii "cli" ∧
      Text.Ascii "hostname spine1" ∧ Text.Ascii "interface et2\nswitchport access vlan 20" ∧
      Text.Ascii "gemini" ∧ Text.Ascii "et2 to 20" := by decide +kernel
  obtain ⟨hturning, hcli, hline, hblock, hgemini, hintent⟩ := hascii
  have hlimit : 9 < Value.shownLimit := by decide +kernel
  have hlines : (filledLines Submission.turning.block).length = 9 ∧
      (filledLines "interface et2\nswitchport access vlan 20").length = 2 := by decide +kernel
  have hnone : ∀ name ∈ (none : Option String), Text.Whole name :=
    fun name hname => absurd hname (Option.not_mem_none name)
  have htracker : ∀ t ∈ some (Tracker.mk none), ∀ name ∈ t.hostname, Text.Whole name := by
    intro t ht
    obtain rfl := Option.some.inj ht
    exact hnone
  have hfirst : Submission.turning.IsReadable := by
    refine ⟨hturning.whole, hcli.whole, hnone, ?_⟩
    rw [hlines.1]
    exact hlimit
  have hsecond : Submission.IsReadable
      ⟨"interface et2\nswitchport access vlan 20", "gemini", some "et2 to 20"⟩ := by
    refine ⟨hblock.whole, hgemini.whole, fun text htext => ?_, ?_⟩
    · obtain rfl := Option.some.inj htext
      exact hintent.whole
    · rw [hlines.2]
      exact Nat.lt_trans (by decide) hlimit
  intro o ho
  simp only [twoApplies, List.mem_cons, List.not_mem_nil, or_false] at ho
  rcases ho with rfl | rfl | rfl | rfl
  · exact ⟨hfirst, htracker⟩
  · exact hline.whole
  · exact ⟨hfirst, fun t ht => absurd ht (Option.not_mem_none t)⟩
  · exact ⟨hsecond, htracker⟩

/-- The environment may name the directory in another spelling than its path has. Both blocks are on
record, and the trail is asked for what was done to the device by words under its new name. -/
theorem trail_reads_back_twoPorts :
    (Site.auditing "a/./").openAudit none = .ok ("a/audit.log", Site.audited "a/./") ∧
      ∃ t : Session,
        Session.run ⟨⟨Device.twoPorts, Site.audited "a/./"⟩, ⟨2, []⟩⟩ twoApplies = .ok t ∧
        (Session.applies ⟨⟨Device.twoPorts, Site.audited "a/./"⟩, ⟨2, []⟩⟩ twoApplies).length = 2 ∧
        t.switch.site.recentChanges none (some "spine1") (some "intent_apply") 3 = .ok
          ((((Session.applies ⟨⟨Device.twoPorts, Site.audited "a/./"⟩, ⟨2, []⟩⟩ twoApplies).filter
            (·.isWanted (some "spine1") (some "intent_apply"))).reverse.take 3).map
              Applied.record) := by
  have hhead : "a/./".toList.head? = some 'a' := by decide
  have hpath : Site.Path.ofText "a/./" = ⟨"", ["a"]⟩ := by decide
  have hopen := Site.auditing_openAudit hhead hpath
  have hshort : (Text.sent (Site.Path.joined ((Site.auditing "a/./").auditDirectory none)
      Audit.fileName)).utf8ByteSize ≤ Site.pathLimit := by
    rw [hopen.1]
    decide +kernel
  obtain ⟨t, hrun, hcount, htrail⟩ :=
    trail_reads_back Device.twoPorts_build Device.twoPorts_hasWholeNames hopen.2.1 hopen.2.2
      (by decide) ⟨2, []⟩ twoApplies_isReadable
  exact ⟨hopen.2.1, t, hrun, hcount,
    htrail none (Or.inr ⟨rfl, rfl, hshort⟩) (some "spine1") (some "intent_apply") 3 (by decide)⟩

/-- With so many slashes behind it that the whole is no path any more, the environment still names
the directory in which the audit file is set up, for slashes mean nothing there. The block is put on
record, and the trail gives it where the path is told, but without a path it gives nothing. -/
theorem trail_misses_long_directory :
    (Site.auditing (Site.Path.slashed "a" 5000)).openAudit none =
        .ok ("a/audit.log", Site.audited (Site.Path.slashed "a" 5000)) ∧
      (Site.audited (Site.Path.slashed "a" 5000)).files.textAt "a/audit.log" = "" ∧
      Operation.IsReadable (.block (some ⟨none⟩) Submission.turning) ∧
      ∃ (t : Session) (a : Applied),
        Session.run ⟨⟨Device.twoPorts, Site.audited (Site.Path.slashed "a" 5000)⟩, ⟨2, []⟩⟩
          [.block (some ⟨none⟩) Submission.turning] = .ok t ∧
        Session.applies ⟨⟨Device.twoPorts, Site.audited (Site.Path.slashed "a" 5000)⟩, ⟨2, []⟩⟩
          [.block (some ⟨none⟩) Submission.turning] = [a] ∧
        t.switch.site.recentChanges (some "a/audit.log") none none 1 = .ok [a.record] ∧
        t.switch.site.recentChanges none none none 1 = .ok [] := by
  have hplain : Site.Path.IsPlain "a" := ⟨by decide, by decide⟩
  have hhead : (Site.Path.slashed "a" 5000).toList.head? = some 'a' := by
    rw [Site.Path.toList_slashed]
    rfl
  obtain ⟨hdirectory, hopen, hempty⟩ :=
    Site.auditing_openAudit hhead (Site.Path.ofText_slashes hplain 4999)
  have hblock : Operation.IsReadable (.block (some ⟨none⟩) Submission.turning) :=
    twoApplies_isReadable _ List.mem_cons_self
  have hstart := onRecord_of_openAudit (Device.build_wellFormed Device.twoPorts_build)
    Device.twoPorts_hasWholeNames hopen hempty ⟨2, []⟩
  obtain ⟨t, hrun, ht, hcount⟩ := hstart.exists_run (List.forall_mem_singleton.mpr hblock)
  obtain ⟨a, ha⟩ := List.length_eq_one_iff.mp hcount
  rw [List.nil_append] at ht
  refine ⟨hopen, hempty, hblock, t, a, hrun, ha, ?_, ?_⟩
  · have htold := ht.recentChanges_eq (by decide) (some "a/audit.log") ht.file none none
      Nat.one_pos
    rw [ha] at htold
    exact htold
  · -- Without a path, the text of the directory is taken as it is spelled.
    refine Site.recentChanges_of_long ?_ none none 1
    rw [Option.getD_none, Site.auditDirectory_congr ht.setting, hdirectory]
    exact Site.pathLimit_lt_of_slashed (by decide)

end Session

end LeafSwitch
