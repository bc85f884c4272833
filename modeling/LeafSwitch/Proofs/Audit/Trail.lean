import LeafSwitch.Audit.Trail
import LeafSwitch.Proofs.Audit.Record
import LeafSwitch.Proofs.Data.Steps
import LeafSwitch.Proofs.Site.Path
import LeafSwitch.Proofs.Site.Stamps
import Mathlib.Tactic.SplitIfs

/-!
# Reading the trail

A file of records holds a line for each, and no character inside a line ends it, so reading the file
gives the records again. The last of them that pass the filters are given newest first.
-/

namespace LeafSwitch

namespace Text

/-- A text without returns stays as it is in front of any other. -/
theorem unifyNewlines_append {cs : List Char} (h : '\r' ∉ cs) (rest : List Char) :
    unifyNewlines (cs ++ rest) = cs ++ unifyNewlines rest := by
  induction cs with
  | nil => rfl
  | cons c cs ih =>
    have hc : c ≠ '\r' := fun heq => h (heq ▸ List.mem_cons_self)
    rw [List.cons_append, unifyNewlines.eq_3 c _ fun _ heq _ => hc heq,
      beq_eq_false_iff_ne.mpr hc, if_neg Bool.false_ne_true,
      ih fun hmem => h (List.mem_cons_of_mem c hmem), List.cons_append]

/-- A text without returns has the line feeds of its own only. -/
theorem unifyNewlines_eq_self {cs : List Char} (h : '\r' ∉ cs) : unifyNewlines cs = cs := by
  have hself := unifyNewlines_append h []
  rwa [List.append_nil, unifyNewlines.eq_1, List.append_nil] at hself

/-- No return is left. -/
theorem return_not_mem_unifyNewlines (cs : List Char) : '\r' ∉ unifyNewlines cs := by
  fun_induction unifyNewlines cs with
  | case1 => exact List.not_mem_nil
  | case2 cs ih => exact List.not_mem_cons_of_ne_of_not_mem (by decide) ih
  | case3 c cs _ ih =>
    refine List.not_mem_cons_of_ne_of_not_mem ?_ ih
    split
    · decide
    · rename_i hc
      exact fun heq => hc (beq_iff_eq.mpr heq.symm)

/-- What a line feed leaves in front of it does not depend on what is behind it. -/
theorem exists_unifyNewlines_feed (cs : List Char) :
    ∃ front, ∀ rest, unifyNewlines (cs ++ '\n' :: rest) = front ++ '\n' :: unifyNewlines rest := by
  fun_induction unifyNewlines cs with
  | case1 => exact ⟨[], fun _ => rfl⟩
  | case2 cs ih =>
    obtain ⟨front, h⟩ := ih
    exact ⟨'\n' :: front, fun rest => congrArg ('\n' :: ·) (h rest)⟩
  | case3 c cs hpair ih =>
    obtain ⟨front, h⟩ := ih
    -- A return at the end of the text makes one line end with the line feed.
    by_cases hlast : c = '\r' ∧ cs = []
    · obtain ⟨rfl, rfl⟩ := hlast
      exact ⟨[], fun _ => rfl⟩
    · refine ⟨(if c == '\r' then '\n' else c) :: front, fun rest => ?_⟩
      have hnext : ∀ more, c = '\r' → cs ++ '\n' :: rest = '\n' :: more → False := by
        intro more hc heq
        cases cs with
        | nil => exact hlast ⟨hc, rfl⟩
        | cons d cs => exact hpair cs hc (congrArg (· :: cs) (List.cons.inj heq).1)
      rw [List.cons_append, unifyNewlines.eq_3 c _ hnext, h, List.cons_append]

end Text

namespace Audit

/-- The lines of an audit file; a return ends a line too. -/
def linesOf (text : String) : List (List Char) :=
  Text.pieces (· == '\n') (Text.unifyNewlines text.toList)

/-- Whether a record passes a filter for devices and one for kinds. -/
def Record.isWanted (r : Record) (hostname operation : Option String) : Bool :=
  passes hostname r.hostname && passes operation r.operation

/-- The file of records: each of them on a line of its own. -/
def fileOf (records : List Record) : List Char :=
  records.flatMap fun r => r.toJson.toList ++ ['\n']

theorem fileOf_cons (r : Record) (rest : List Record) :
    fileOf (r :: rest) = r.toJson.toList ++ '\n' :: fileOf rest := by
  rw [fileOf, List.flatMap_cons, List.append_assoc]
  rfl

theorem fileOf_concat (records : List Record) (r : Record) :
    fileOf (records ++ [r]) = fileOf records ++ (r.toJson.toList ++ ['\n']) := by
  rw [fileOf, List.flatMap_append, List.flatMap_singleton]
  rfl

/-- Nothing is trimmed of the line of a record. -/
theorem trim_toJson (r : Record) : Text.trim r.toJson.toList = r.toJson.toList := by
  obtain ⟨cs, hcs⟩ := r.exists_toJson
  rw [hcs]
  exact Text.trim_between (by decide) (by decide) cs

/-- A record is read from its line. -/
theorem recordsOn_toJson {room : Nat} {r : Record} (h : r.IsPlain room)
    (rest : List (List Char)) :
    recordsOn (room + 1) (r.toJson.toList :: rest) =
      (recordsOn (room + 1) rest).map (r :: ·) := by
  have hempty : ¬r.toJson.toList.isEmpty = true := by
    obtain ⟨cs, hcs⟩ := r.exists_toJson
    rw [hcs]
    exact Bool.false_ne_true
  rw [recordsOn]
  rw [trim_toJson, if_neg hempty, String.ofList_toList, Record.ofJson_toJson h]

/-- The line of a record holds no end of a line. -/
theorem toJson_clean {room : Nat} {r : Record} (h : r.IsPlain room) :
    '\n' ∉ r.toJson.toList ∧ '\r' ∉ r.toJson.toList := by
  have hprintable := Record.printable_toJson h
  exact ⟨fun hmem => absurd (hprintable _ hmem) (by decide),
    fun hmem => absurd (hprintable _ hmem) (by decide)⟩

/-- The records of a file are read from it. -/
theorem recordsOn_fileOf {room : Nat} {records : List Record}
    (h : ∀ r ∈ records, r.IsPlain room) :
    recordsOn (room + 1) (linesOf (String.ofList (fileOf records))) = .ok records := by
  -- Records are written in printable ASCII, so the only line ends are those between them.
  have hreturn : '\r' ∉ fileOf records := by
    intro hmem
    obtain ⟨r, hr, hc⟩ := List.mem_flatMap.mp hmem
    rcases List.mem_append.mp hc with hc | hc
    · exact (toJson_clean (h r hr)).2 hc
    · exact absurd (List.mem_singleton.mp hc) (by decide)
  rw [linesOf, String.toList_ofList, Text.unifyNewlines_eq_self hreturn]
  clear hreturn
  induction records with
  | nil => rfl
  | cons r rest ih =>
    have hfeed := (toJson_clean (h r List.mem_cons_self)).1
    rw [fileOf_cons, Text.pieces_line hfeed, recordsOn_toJson (h r List.mem_cons_self),
      ih fun s hs => h s (List.mem_cons_of_mem r hs)]
    rfl

/-- The last items, newest first, are the first ones of the row turned round. -/
theorem reverse_lastOf {α : Type} {limit : Int} (h : 0 < limit) (items : List α) :
    (lastOf limit items).reverse = items.reverse.take limit.toNat := by
  rw [lastOf, if_pos h, List.take_reverse]

end Audit

namespace Site

variable {s opened : Site} {directory : Option String} {path text : String}

/-- The name of the audit file stands for itself in a path. -/
theorem isPlain_fileName : Path.IsPlain Audit.fileName :=
  ⟨by decide, by decide⟩

/-- Once an audit file is set up where nothing is written yet, it can be read, and it is empty. What
the site has been told is as it was. -/
theorem read_of_openAudit (h : s.openAudit directory = .ok (path, opened))
    (hempty : opened.files.textAt path = "") :
    path = ((Path.ofText (s.auditDirectory directory)).child Audit.fileName).text ∧
      opened.auditFile = some path ∧ opened.SameSetting s ∧
      opened.files.read path = .ok "" := by
  obtain ⟨file, hfile⟩ : ∃ file,
      file = ((Path.ofText (s.auditDirectory directory)).child Audit.fileName).text := ⟨_, rfl⟩
  have hlast : ∀ front, Path.pieces file ≠ front ++ [""] := by
    intro front hfront
    obtain ⟨front', hfront', _⟩ :=
      Path.pieces_text_child isPlain_fileName (s.auditDirectory directory)
    rw [hfile, hfront'] at hfront
    have hsame := List.singleton_inj.mp (List.append_inj_right' hfront rfl)
    exact absurd hsame (by decide)
  rw [openAudit, ← hfile] at h
  obtain ⟨made, _, happended⟩ := bind_eq_ok_iff.mp h
  obtain ⟨files, happend, hopened⟩ := bind_eq_ok_iff.mp happended
  obtain ⟨rfl, rfl⟩ := Prod.mk.inj (Except.ok.inj hopened)
  refine ⟨hfile, rfl, ⟨rfl, rfl, rfl⟩, ?_⟩
  have hread := Files.read_append happend hlast
  have htext : files.textAt file = made.textAt file ++ "" := by
    rw [Files.textAt, hread]
    rfl
  rw [hread, ← htext]
  exact congrArg Except.ok hempty

/-- A record is written behind what the audit file holds, and nothing else that decides where the
file is changes. -/
theorem read_fileRecord (hfile : s.auditFile = some path) (hread : s.files.read path = .ok text)
    (r : Audit.Record) :
    (s.fileRecord r).auditFile = some path ∧ (s.fileRecord r).SameSetting s ∧
      (s.fileRecord r).files.read path = .ok (text ++ (r.toJson ++ "\n")) := by
  obtain ⟨after, happend, hafter⟩ := Files.exists_append hread (r.toJson ++ "\n")
  have hrecord : s.fileRecord r = { s with files := after } := by
    rw [fileRecord, hfile]
    dsimp only
    rw [happend]
    rfl
  rw [hrecord]
  exact ⟨hfile, ⟨rfl, rfl, rfl⟩, hafter⟩

/-- Of the records on the lines of a file, the last that pass the filters are given, newest first.
-/
theorem recentChanges_of_read {given : Option String}
    (hpath : given.getD (Path.joined (s.auditDirectory none) Audit.fileName) = path)
    (hread : s.files.read path = .ok text) (hostname operation : Option String) (limit : Int) :
    s.recentChanges given hostname operation limit =
      (Audit.recordsOn s.nesting.json (Audit.linesOf text)).map fun records =>
        (Audit.lastOf limit (records.filter (·.isWanted hostname operation))).reverse := by
  obtain ⟨place, hspot⟩ := Files.read_eq_ok_iff.mp hread
  have hholds : ¬(!s.files.holds path) = true := by
    rw [Files.holds_of_spot_file hspot]
    exact Bool.false_ne_true
  rw [recentChanges, hpath]
  dsimp only
  rw [if_neg hholds, hread]
  dsimp only
  rw [Audit.linesOf]
  let lines := Text.pieces (· == '\n') (Text.unifyNewlines text.toList)
  cases Audit.recordsOn s.nesting.json lines with
  | ok records => rfl
  | error cause => rfl

/-- Where a file holds records, the last of them that pass the filters are given, newest first. -/
theorem recentChanges_eq {given : Option String} {room : Nat} {records : List Audit.Record}
    (hroom : s.nesting.json = room + 1)
    (hpath : given.getD (Path.joined (s.auditDirectory none) Audit.fileName) = path)
    (hread : s.files.read path = .ok (String.ofList (Audit.fileOf records)))
    (hplain : ∀ r ∈ records, r.IsPlain room) (hostname operation : Option String) {limit : Int}
    (hlimit : 0 < limit) :
    s.recentChanges given hostname operation limit = .ok
      ((records.filter (·.isWanted hostname operation)).reverse.take limit.toNat) := by
  rw [recentChanges_of_read hpath hread, hroom, Audit.recordsOn_fileOf hplain]
  exact congrArg Except.ok (Audit.reverse_lastOf hlimit _)

/-- A path that is too long leads to no records. -/
theorem recentChanges_of_long {given : Option String}
    (hlong : pathLimit < (Text.sent
      (given.getD (Path.joined (s.auditDirectory none) Audit.fileName))).utf8ByteSize)
    (hostname operation : Option String) (limit : Int) :
    s.recentChanges given hostname operation limit = .ok [] := by
  obtain ⟨path, hpath⟩ : ∃ path,
      path = given.getD (Path.joined (s.auditDirectory none) Audit.fileName) := ⟨_, rfl⟩
  rw [← hpath] at hlong
  have hspot : ∃ e, s.files.spot path = .error e := by
    rw [Files.spot]
    split_ifs
    · exact ⟨_, rfl⟩
    · exact ⟨_, rfl⟩
    · exact ⟨_, rfl⟩
  obtain ⟨e, he⟩ := hspot
  have hholds : (!s.files.holds path) = true := by
    rw [Files.holds, he]
    rfl
  rw [recentChanges, ← hpath]
  exact if_pos hholds

/-- With enough slashes behind the directory `a`, the text of its audit file is too long. -/
theorem pathLimit_lt_of_slashed {count : Nat} (h : pathLimit ≤ count) :
    pathLimit <
      (Text.sent (Path.joined (Path.slashed "a" (count + 1)) Audit.fileName)).utf8ByteSize := by
  have hmark : Text.mark ∉ "a".toList ∧ Text.mark ∉ Audit.fileName.toList ∧ Text.mark ≠ '/' := by
    decide
  have hchars : (Path.joined (Path.slashed "a" (count + 1)) Audit.fileName).toList =
      "a".toList ++ List.replicate (count + 1) '/' ++ Audit.fileName.toList := by
    rw [Path.joined_slashed, String.toList_append, Path.toList_slashed]
  have hplain : Text.mark ∉ (Path.joined (Path.slashed "a" (count + 1)) Audit.fileName).toList := by
    simp only [hchars, List.mem_append, List.mem_replicate, hmark, or_false, and_false,
      not_false_iff]
  have hle := Text.length_le_utf8ByteSize_sent hplain
  simp only [hchars, List.length_append, List.length_replicate] at hle
  omega

/-- A site whose environment names the directory of the audit file. -/
def auditing (directory : String) : Site :=
  { Site.quiet with env := [("STRATUS_AUDIT_DIR", directory)] }

/-- The site once the audit file is set up in the directory `a`. -/
def audited (directory : String) : Site :=
  { auditing directory with
    files := ⟨[(workingPlace ++ ["a", "audit.log"], "")], [workingPlace ++ ["a"]]⟩
    auditFile := some "a/audit.log" }

/-- However the directory `a` is spelled, the audit file is set up in it, and it is empty. -/
theorem auditing_openAudit {directory : String} (hhead : directory.toList.head? = some 'a')
    (hpath : Path.ofText directory = ⟨"", ["a"]⟩) :
    (auditing directory).auditDirectory none = directory ∧
      (auditing directory).openAudit none = .ok ("a/audit.log", audited directory) ∧
      (audited directory).files.textAt "a/audit.log" = "" := by
  have hdirectory : (auditing directory).auditDirectory none = directory := by
    obtain ⟨rest, hrest⟩ := List.head?_eq_some_iff.mp hhead
    change Path.expandHome _ directory = directory
    rw [Path.expandHome, hrest]
    rfl
  have hchild : (Path.child ⟨"", ["a"]⟩ Audit.fileName).text = "a/audit.log" := by decide
  have hmade : Files.ensureDirectories ⟨[], []⟩ ⟨"", ["a"]⟩ =
      .ok ⟨[], [workingPlace ++ ["a"]]⟩ := by decide
  have happend : Files.append ⟨[], [workingPlace ++ ["a"]]⟩ "a/audit.log" "" =
      .ok ⟨[(workingPlace ++ ["a", "audit.log"], "")], [workingPlace ++ ["a"]]⟩ := by decide
  have hempty : Files.textAt ⟨[(workingPlace ++ ["a", "audit.log"], "")], [workingPlace ++ ["a"]]⟩
      "a/audit.log" = "" := by decide
  refine ⟨hdirectory, ?_, hempty⟩
  rw [openAudit, hdirectory, hpath]
  have hfiles : (auditing directory).files = ⟨[], []⟩ := rfl
  simp only [hfiles, hchild, hmade, bind, Except.bind, happend]
  rfl

end Site

end LeafSwitch
