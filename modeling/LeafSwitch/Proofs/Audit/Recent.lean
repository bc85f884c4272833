import LeafSwitch.Proofs.Audit.Trail
import LeafSwitch.Proofs.Session.Files

/-!
# The last records

What is filed one after the other stands in the audit file in this order, whatever else happens that
touches no file. Asked for some records, the trail gives as many of the last that pass the filters,
newest first. Asked for no records, however, it gives all that pass.
-/

namespace LeafSwitch

/-- What can be filed: its numbers can be written out. -/
structure Audit.Filing.IsWritable (f : Audit.Filing) : Prop where
  /-- The directives can be counted. -/
  lines : f.lines.natAbs < Value.shownLimit
  /-- The directives applied can be counted. -/
  applied : f.applied.natAbs < Value.shownLimit
  /-- The VLANs can be listed. -/
  created : ∀ v ∈ f.created, v.natAbs < Value.shownLimit

/-- The record of what can be filed has fields that are read back. -/
theorem Audit.Filing.IsWritable.isField {f : Audit.Filing} (h : f.IsWritable)
    (fallback : Option String) (time : Time.Instant) :
    ∀ p ∈ (f.record fallback time).fields, Audit.Record.IsField p.2 := by
  intro p hp
  rw [Audit.Record.fields] at hp
  simp only [List.mem_cons, List.not_mem_nil, or_false] at hp
  rcases hp with rfl | rfl | rfl | rfl | rfl | rfl | rfl | rfl | rfl | rfl
  · exact .single (.text _)
  · exact .single (.text _)
  · exact .single (.text _)
  · exact .single (.text _)
  · exact .single (.number h.lines)
  · exact .single (.number h.applied)
  · refine .several fun v hv => ?_
    obtain ⟨name, _, rfl⟩ := List.mem_map.mp hv
    exact .text name
  · refine .several fun v hv => ?_
    obtain ⟨n, hn, rfl⟩ := List.mem_map.mp hv
    exact .number (h.created n hn)
  · exact .single (.text _)
  · cases hintent : f.intent with
    | none =>
      simp only [Audit.Filing.record, hintent]
      exact .nothing
    | some text =>
      simp only [Audit.Filing.record, hintent]
      exact .single (.text text)

namespace Site

/-- How it comes about that a site has filed records in its audit file, which was empty at first. -/
inductive HasFiled (path : String) : List Audit.Record → Site → Prop where
  /-- Nothing is filed yet. -/
  | opened {s : Site} (hfile : s.auditFile = some path) (hempty : s.files.read path = .ok "") :
    HasFiled path [] s
  /-- Something happens that touches no file. -/
  | other {records : List Audit.Record} {s t : Site} (h : HasFiled path records s)
    (hkeeps : t.KeepsFiles s) : HasFiled path records t
  /-- A record is filed. -/
  | filed {records : List Audit.Record} {s : Site} (h : HasFiled path records s)
    (fallback : Option String) {f : Audit.Filing} (hf : f.IsWritable) :
    HasFiled path (records ++ [(s.file fallback f).1]) (s.file fallback f).2

namespace HasFiled

variable {path : String} {records : List Audit.Record} {s : Site}

/-- What has been filed stands in the audit file, and can be read back. -/
theorem on_file (h : HasFiled path records s) :
    s.auditFile = some path ∧
      s.files.read path = .ok (String.ofList (Audit.fileOf records)) ∧
      ∀ r ∈ records, ∀ p ∈ r.fields, Audit.Record.IsField p.2 := by
  induction h with
  | opened hfile hempty =>
    exact ⟨hfile, hempty, fun r hr => absurd hr List.not_mem_nil⟩
  | other _ hkeeps ih =>
    obtain ⟨hfile, hread, hfields⟩ := ih
    rw [hkeeps.auditFile, hkeeps.files]
    exact ⟨hfile, hread, hfields⟩
  | @filed records s _ fallback f hf ih =>
    obtain ⟨hfile, hread, hfields⟩ := ih
    let r := f.record fallback s.clock.now
    let ticked : Site := { s with clock := s.clock.advanced }
    obtain ⟨hfile', _, hread'⟩ := read_fileRecord (s := ticked) hfile hread r
    have hafter : (s.file fallback f).2 = ticked.fileRecord r := rfl
    rw [hafter]
    refine ⟨hfile', ?_, fun q hq => ?_⟩
    · rw [hread', Audit.fileOf_concat, String.ofList_append, String.ofList_append,
        String.ofList_toList]
      rfl
    · rcases List.mem_append.mp hq with hq | hq
      · exact hfields q hq
      · obtain rfl := List.mem_singleton.mp hq
        exact hf.isField fallback _

/-- Of the records as they are read, the last that pass the filters are given, newest first. -/
theorem recentChanges_eq (h : HasFiled path records s) (hroom : 2 ≤ s.nesting.json)
    {given : Option String}
    (hpath : given.getD (Path.joined (s.auditDirectory none) Audit.fileName) = path)
    (hostname operation : Option String) (limit : Int) :
    s.recentChanges given hostname operation limit = .ok (Audit.lastOf limit
      ((records.map Audit.Record.reread).filter (·.isWanted hostname operation))).reverse := by
  obtain ⟨_, hread, hfields⟩ := h.on_file
  obtain ⟨room, hinner⟩ := Nat.exists_eq_add_of_le' hroom
  have hplain : ∀ r ∈ records.map Audit.Record.reread, r.IsPlain (room + 1) := by
    intro r hr
    obtain ⟨q, hq, rfl⟩ := List.mem_map.mp hr
    exact (Audit.Record.ofJson_toJson_of_isField (hfields q hq) room).1
  have hsame : Audit.fileOf records = Audit.fileOf (records.map Audit.Record.reread) := by
    rw [Audit.fileOf, Audit.fileOf, List.flatMap_map]
    simp only [Audit.Record.toJson_reread]
  rw [recentChanges_of_read hpath hread, hsame, hinner, Audit.recordsOn_fileOf hplain]
  rfl

/-- Each record that has been filed is read where it is written, and it is read as it was unless its
texts hold halves, as long as JSON may nest as deep as records do. Asked for at least one record,
the trail gives as many of the last that pass the filters, newest first, or all of them if there are
not so many. Asked for none, it gives all. -/
theorem gives_last (h : HasFiled path records s) (hroom : 2 ≤ s.nesting.json)
    {given : Option String}
    (hpath : given.getD (Path.joined (s.auditDirectory none) Audit.fileName) = path)
    (hostname operation : Option String) (limit : Nat) :
    (∀ r ∈ records, Audit.Record.ofJson s.nesting.json r.toJson = .ok r.reread ∧
      (r.IsDeclared → r.reread = r)) ∧
    ∃ wanted found, wanted =
        (records.map Audit.Record.reread).filter (·.isWanted hostname operation) ∧
      s.recentChanges given hostname operation limit = .ok found ∧
      (0 < limit → found = (wanted.drop (wanted.length - limit)).reverse ∧
        found.length = min limit wanted.length) ∧
      (limit = 0 → found = wanted.reverse) := by
  obtain ⟨_, _, hfields⟩ := h.on_file
  refine ⟨fun r hr => ⟨?_, fun hdeclared => hdeclared.reread_eq⟩, ?_⟩
  · obtain ⟨room, hinner⟩ := Nat.exists_eq_add_of_le' hroom
    rw [hinner]
    exact (Audit.Record.ofJson_toJson_of_isField (hfields r hr) room).2
  · refine ⟨_, _, rfl, h.recentChanges_eq hroom hpath hostname operation limit, fun hlimit => ?_,
      ?_⟩
    · rw [Audit.lastOf, if_pos (Int.natCast_pos.mpr hlimit), Int.toNat_natCast]
      refine ⟨rfl, ?_⟩
      rw [List.length_reverse, List.length_drop]
      omega
    · rintro rfl
      rfl

/-- A filing whose source holds the two halves of a character. -/
def halved : Audit.Filing :=
  ⟨"intent_apply", Text.ofCodes [0xD835, 0xDD3C], 2, 1, ["Ethernet1"], [40],
    "interface et1\nswitchport access vlan 40", some "et1 to 40", some "leaf1"⟩

theorem halved_isWritable : halved.IsWritable := by
  have hlimit : 41 < Value.shownLimit := by decide +kernel
  refine ⟨Nat.lt_trans (by decide) hlimit, Nat.lt_trans (by decide) hlimit, fun v hv => ?_⟩
  obtain rfl := List.mem_singleton.mp hv
  exact Nat.lt_trans (by decide) hlimit

/-- Nothing is filed yet where the audit file has just been set up. -/
theorem of_audited : HasFiled "a/audit.log" [] (audited "a") := by
  obtain ⟨_, hopen, hempty⟩ := @auditing_openAudit "a" (by decide) (by decide)
  obtain ⟨_, hfile, _, hread⟩ := read_of_openAudit hopen hempty
  exact .opened hfile hread

/-- The last of two records is given where one is asked for. -/
theorem gives_last_of_two :
    ∃ (first last : Audit.Record) (s : Site), HasFiled "a/audit.log" [first, last] s ∧
      2 ≤ s.nesting.json ∧
      (some "a/audit.log").getD (Path.joined (s.auditDirectory none) Audit.fileName) =
        "a/audit.log" ∧
      Audit.Record.ofJson s.nesting.json last.toJson = .ok last.reread ∧
      s.recentChanges (some "a/audit.log") none none 1 = .ok [last.reread] := by
  have hone := of_audited.filed none halved_isWritable
  have htwo := hone.filed (some "leaf2") halved_isWritable
  have hroom : 2 ≤ (audited "a").nesting.json := by decide
  obtain ⟨hreads, wanted, found, hwanted, hfound, hsome, _⟩ := gives_last htwo hroom
    (Option.getD_some : (some "a/audit.log").getD _ = "a/audit.log") none none 1
  refine ⟨_, _, _, htwo, hroom, rfl, (hreads _ (List.mem_append_right _ List.mem_cons_self)).1, ?_⟩
  rw [(hsome Nat.one_pos).1, hwanted] at hfound
  exact hfound

/-- Asked for no records, the trail gives one. -/
theorem gives_more_than_none :
    ¬∀ (path : String) (records : List Audit.Record) (s : Site), HasFiled path records s →
      ∀ (limit : Nat) (found : List Audit.Record),
        s.recentChanges (some path) none none limit = .ok found → found.length ≤ limit := by
  intro hclaim
  have hone := of_audited.filed none halved_isWritable
  have hroom : 2 ≤ (audited "a").nesting.json := by decide
  have hfound := hone.recentChanges_eq hroom
    (Option.getD_some : (some "a/audit.log").getD _ = "a/audit.log") none none 0
  exact absurd (hclaim _ _ _ hone 0 _ hfound) (by decide)

end HasFiled

end Site

end LeafSwitch
