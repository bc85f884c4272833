import LeafSwitch.Proofs.Audit.Trail
import Mathlib.Data.List.Basic

/-!
# Lines that hold no record

Whatever text an audit file holds, a line of it that holds no record is passed over: it can be taken
out or put in without a difference to what is read. There is one exception. A line that goes beyond
a limit of reading, by a number with too many digits or by brackets that lie too deep in each other,
keeps the whole file from being read.
-/

namespace LeafSwitch

namespace Json

/-- A digit that is repeated is taken as often as it stands there. -/
theorem takeDigits_replicate {c : Char} (hc : isDigit c = true) (n : Nat) :
    takeDigits (List.replicate n c) = (List.replicate n c, []) := by
  rw [takeDigits, List.takeWhile_replicate, List.dropWhile_replicate, if_pos hc, if_pos hc]

/-- A number with too many digits goes beyond what is read. -/
theorem read_nines {n : Nat} (h : Number.maxDigits < n) (room : Nat) :
    read room (String.ofList (List.replicate n '9')) = .error (.tooLong n) := by
  obtain ⟨m, rfl⟩ := Nat.exists_eq_add_one_of_ne_zero (Nat.ne_zero_of_lt h)
  have hcons : List.replicate (m + 1) '9' = '9' :: List.replicate m '9' := rfl
  have hnumber : readNumber ('9' :: List.replicate m '9') = .error (.tooLong (m + 1)) := by
    have hdigits : takeDigits ('9' :: List.replicate m '9') = ('9' :: List.replicate m '9', []) :=
      takeDigits_replicate (c := '9') (by decide) (m + 1)
    have hstops : Stops [] := fun c hc => absurd hc (Option.not_mem_none c)
    have hne : ∀ c, c ≠ '9' → ∀ more, '9' :: List.replicate m '9' = c :: more → False :=
      fun _ hc _ heq => hc (List.cons.inj heq).1.symm
    rw [readNumber.eq_4 _ (hne '-' (by decide)) (hne '0' (by decide)), hdigits]
    simp only [takeFraction_of_stops hstops, takeExponent_of_stops hstops, Option.map_none,
      Option.getD_none, Option.isNone_none, Bool.and_self, List.isEmpty_cons, Bool.false_eq_true,
      ite_true, ite_false, List.length_cons, List.length_replicate]
    exact if_pos h
  have hvalue : ∀ fuel, readValue (fuel + 1) room ('9' :: List.replicate m '9') =
      readScalar ('9' :: List.replicate m '9') := by
    intro fuel
    rfl
  have hscalar : readScalar ('9' :: List.replicate m '9') =
      readNumber ('9' :: List.replicate m '9') := rfl
  have hskip : skipSpace ('9' :: List.replicate m '9') = '9' :: List.replicate m '9' := rfl
  rw [read, String.toList_ofList, hcons, hskip, hvalue, hscalar, hnumber]

end Json

namespace Audit

/-- The record on a line, if it holds one, where `room` tells how deep values may nest. -/
def recordOn? (room : Nat) (line : List Char) : Option Record :=
  (Record.ofJson room (String.ofList (Text.trim line))).toOption

/-- How a line goes beyond a limit of reading, if it does. -/
def excessOn? (room : Nat) (line : List Char) : Option Json.ReadError :=
  match Record.ofJson room (String.ofList (Text.trim line)) with
  | .error (.json .malformed) => none
  | .error (.json cause) => some cause
  | _ => none

/-- A text with the lines of another that hold a record, and no others. -/
def recordLines (room : Nat) (text : String) : String :=
  Text.join "\n"
    (((linesOf text).filter fun line => (recordOn? room line).isSome).map String.ofList)

/-! ### Lines of a file -/

variable {room : Nat}

/-- A line that is read first goes beyond a limit, or adds the record on it if it holds one. -/
theorem recordsOn_cons (line : List Char) (rest : List (List Char)) :
    recordsOn room (line :: rest) =
      match excessOn? room line with
      | some cause => .error (.json cause)
      | none => (recordsOn room rest).map ((recordOn? room line).toList ++ ·) := by
  have hnone : recordsOn room rest = (recordsOn room rest).map (([] : List Record) ++ ·) := by
    cases recordsOn room rest <;> rfl
  rw [recordsOn, excessOn?, recordOn?]
  by_cases hblank : (Text.trim line).isEmpty = true
  · rw [if_pos hblank, List.isEmpty_iff.mp hblank]
    exact hnone
  · rw [if_neg hblank]
    cases hline : Record.ofJson room (String.ofList (Text.trim line)) with
    | ok r => rfl
    | error e =>
      cases e with
      | json cause =>
        cases cause with
        | malformed => exact hnone
        | tooLong | deepSequence | deepMapping => rfl
      | notMapping | namelessField | unknownField | reservedField | missingFields => exact hnone

/-- The line of a record holds it. -/
theorem recordOn?_toJson {r : Record} (h : r.IsPlain room) :
    recordOn? (room + 1) r.toJson.toList = some r ∧
      excessOn? (room + 1) r.toJson.toList = none := by
  rw [recordOn?, excessOn?, trim_toJson, String.ofList_toList, Record.ofJson_toJson h]
  exact ⟨rfl, rfl⟩

/-- Lines that go beyond no limit are read, and give the records on them. -/
theorem recordsOn_eq {lines : List (List Char)} (h : ∀ line ∈ lines, excessOn? room line = none) :
    recordsOn room lines = .ok (lines.filterMap (recordOn? room)) := by
  induction lines with
  | nil => rfl
  | cons line rest ih =>
    obtain ⟨hline, hrest⟩ := List.forall_mem_cons.mp h
    rw [recordsOn_cons, hline]
    dsimp only
    rw [ih hrest, List.filterMap_cons]
    cases recordOn? room line <;> rfl

/-- Lines are read exactly where none of them goes beyond a limit. -/
theorem exists_recordsOn_iff {lines : List (List Char)} :
    (∃ records, recordsOn room lines = .ok records) ↔
      ∀ line ∈ lines, excessOn? room line = none := by
  refine ⟨?_, fun h => ⟨_, recordsOn_eq h⟩⟩
  induction lines with
  | nil => exact fun _ line hline => absurd hline List.not_mem_nil
  | cons line rest ih =>
    rintro ⟨records, h⟩
    rw [recordsOn_cons] at h
    cases hline : excessOn? room line with
    | some cause =>
      rw [hline] at h
      cases h
    | none =>
      rw [hline] at h
      cases hrest : recordsOn room rest with
      | error e =>
        simp only [hrest] at h
        cases h
      | ok more => exact List.forall_mem_cons.mpr ⟨hline, ih ⟨more, hrest⟩⟩

/-- No line holds the end of one. -/
theorem linesOf_clean {text : String} {line : List Char} (h : line ∈ linesOf text) :
    '\n' ∉ line ∧ '\r' ∉ line := by
  constructor
  · intro hmem
    exact absurd (Text.mem_of_mem_pieces h hmem).2 (by decide)
  · intro hmem
    exact Text.return_not_mem_unifyNewlines _ (Text.mem_of_mem_pieces h hmem).1

/-- Lines that are joined by line feeds are the lines of the text that they make. -/
theorem linesOf_join {lines : List (List Char)} (hne : lines ≠ [])
    (h : ∀ line ∈ lines, '\n' ∉ line ∧ '\r' ∉ line) :
    linesOf (Text.join "\n" (lines.map String.ofList)) = lines := by
  have hpieces :
      Text.pieces (· == '\n') (Text.join "\n" (lines.map String.ofList)).toList = lines :=
    Text.pieces_join rfl hne fun line hline => (h line hline).1
  have hreturn : '\r' ∉ (Text.join "\n" (lines.map String.ofList)).toList := by
    intro hmem
    obtain ⟨line, hline, hc⟩ := Text.exists_mem_pieces (p := (· == '\n')) hmem (by decide)
    rw [hpieces] at hline
    exact (h line hline).2 hc
  rw [linesOf, Text.unifyNewlines_eq_self hreturn, hpieces]

/-- A line that is put behind a line feed is a line of its own. -/
theorem linesOf_insert {bad : String} (hfeed : '\n' ∉ bad.toList) (hreturn : '\r' ∉ bad.toList)
    (before behind : String) :
    ∃ front, linesOf (before ++ "\n" ++ behind) = front ++ linesOf behind ∧
      linesOf (before ++ "\n" ++ bad ++ "\n" ++ behind) =
        front ++ bad.toList :: linesOf behind := by
  have hfeeds : "\n".toList = ['\n'] := rfl
  obtain ⟨front, hfront⟩ := Text.exists_unifyNewlines_feed before.toList
  refine ⟨Text.pieces (· == '\n') front, ?_, ?_⟩
  · rw [linesOf, String.toList_append, String.toList_append, hfeeds, List.append_assoc,
      List.singleton_append, hfront, Text.pieces_append_cons rfl]
    rfl
  · have hlist : (before ++ "\n" ++ bad ++ "\n" ++ behind).toList =
        before.toList ++ '\n' :: ((bad.toList ++ ['\n']) ++ behind.toList) := by
      simp only [String.toList_append, hfeeds, List.append_assoc, List.cons_append,
        List.nil_append]
    have hreturns : '\r' ∉ bad.toList ++ ['\n'] := by
      rw [List.mem_append]
      exact not_or.mpr ⟨hreturn, by decide⟩
    rw [linesOf, hlist, hfront, Text.unifyNewlines_append hreturns, Text.pieces_append_cons rfl,
      List.append_assoc, List.singleton_append, Text.pieces_line hfeed]
    rfl

/-! ### Lines that are passed over -/

/-- What is read of a text is read of the lines of it that hold a record. -/
theorem recordsOn_recordLines {text : String}
    (h : ∀ line ∈ linesOf text, excessOn? room line = none) :
    recordsOn room (linesOf (recordLines room text)) = recordsOn room (linesOf text) := by
  obtain ⟨kept, hkept⟩ : ∃ kept,
      kept = (linesOf text).filter fun line => (recordOn? room line).isSome := ⟨_, rfl⟩
  have hmem : ∀ line ∈ kept, line ∈ linesOf text := fun line hline =>
    List.mem_of_mem_filter (hkept ▸ hline)
  have hsame : kept.filterMap (recordOn? room) = (linesOf text).filterMap (recordOn? room) := by
    rw [hkept, List.filterMap_filter]
    refine List.filterMap_congr fun line _ => ?_
    cases hline : recordOn? room line <;> rfl
  rw [recordLines, ← hkept, recordsOn_eq h, ← hsame]
  cases kept with
  | nil => rfl
  | cons line rest =>
    rw [linesOf_join (List.cons_ne_nil line rest) fun l hl => linesOf_clean (hmem l hl),
      recordsOn_eq fun l hl => h l (hmem l hl)]

/-- A line that holds no record and goes beyond no limit makes no difference where it is put in. -/
theorem recordsOn_insert {bad : List Char} (hnone : recordOn? room bad = none)
    (hexcess : excessOn? room bad = none) (front behind : List (List Char)) :
    recordsOn room (front ++ bad :: behind) = recordsOn room (front ++ behind) := by
  induction front with
  | nil =>
    rw [List.nil_append, List.nil_append, recordsOn_cons, hexcess, hnone]
    cases recordsOn room behind <;> rfl
  | cons line rest ih =>
    rw [List.cons_append, List.cons_append, recordsOn_cons, recordsOn_cons, ih]

/-! ### Numbers that are too long -/

/-- A line that is a number with too many digits goes beyond a limit. -/
theorem excessOn?_nines {n : Nat} (h : Number.maxDigits < n) :
    excessOn? room (List.replicate n '9') = some (.tooLong n) := by
  have htrim : Text.trim (List.replicate n '9') = List.replicate n '9' := by
    have hdigits : Number.maxDigits = 4300 := rfl
    obtain ⟨m, rfl⟩ := Nat.exists_eq_add_of_le' (show 2 ≤ n by omega)
    have hends : List.replicate (m + 2) '9' = '9' :: (List.replicate m '9' ++ ['9']) := by
      rw [List.replicate_succ, List.replicate_succ']
    rw [hends]
    exact Text.trim_between (by decide) (by decide) _
  have hline : Record.ofJson room (String.ofList (List.replicate n '9')) =
      .error (.json (.tooLong n)) := by
    rw [Record.ofJson, Json.read_nines h]
  rw [excessOn?, htrim, hline]

end Audit

namespace Site

variable {s t : Site} {path other text text' : String} {given : Option String}

/-- Texts of which the same records are read lead to the same answer. -/
theorem recentChanges_congr
    (hpath : given.getD (Path.joined (s.auditDirectory none) Audit.fileName) = path)
    (hread : s.files.read path = .ok text) (hread' : t.files.read other = .ok text')
    (hnesting : t.nesting.json = s.nesting.json)
    (hsame : Audit.recordsOn s.nesting.json (Audit.linesOf text') =
      Audit.recordsOn s.nesting.json (Audit.linesOf text))
    (hostname operation : Option String) (limit : Int) :
    t.recentChanges (some other) hostname operation limit =
      s.recentChanges given hostname operation limit := by
  have hother : (some other).getD (Path.joined (t.auditDirectory none) Audit.fileName) = other :=
    rfl
  rw [recentChanges_of_read hpath hread, recentChanges_of_read hother hread', hnesting, hsame]

/-- An audit file is read exactly where no line of it goes beyond a limit, wherever the limit of
nesting may lie. What is given then are the last of the records on its lines that pass the filters.
The same is given for a file that has only the lines that hold a record, and for a file in which one
more line that holds none stands between two lines. -/
theorem recentChanges_passes_over
    (hpath : given.getD (Path.joined (s.auditDirectory none) Audit.fileName) = path)
    (hread : s.files.read path = .ok text) (hostname operation : Option String) (limit : Int) :
    let room := s.nesting.json
    ((∃ found, s.recentChanges given hostname operation limit = .ok found) ↔
      ∀ line ∈ Audit.linesOf text, Audit.excessOn? room line = none) ∧
    ∀ found, s.recentChanges given hostname operation limit = .ok found →
      found = (Audit.lastOf limit (((Audit.linesOf text).filterMap (Audit.recordOn? room)).filter
        (·.isWanted hostname operation))).reverse ∧
      (∀ (t : Site) (other : String), t.nesting.json = room →
        t.files.read other = .ok (Audit.recordLines room text) →
        t.recentChanges (some other) hostname operation limit = .ok found) ∧
      ∀ before bad behind : String, text = before ++ "\n" ++ behind →
        '\n' ∉ bad.toList → '\r' ∉ bad.toList →
        Audit.recordOn? room bad.toList = none → Audit.excessOn? room bad.toList = none →
        ∀ (t : Site) (other : String), t.nesting.json = room →
          t.files.read other = .ok (before ++ "\n" ++ bad ++ "\n" ++ behind) →
          t.recentChanges (some other) hostname operation limit = .ok found := by
  intro room
  have hanswer := recentChanges_of_read hpath hread hostname operation limit
  have hiff : (∃ found, s.recentChanges given hostname operation limit = .ok found) ↔
      ∀ line ∈ Audit.linesOf text, Audit.excessOn? room line = none := by
    rw [← Audit.exists_recordsOn_iff, hanswer]
    cases Audit.recordsOn room (Audit.linesOf text) with
    | error e => simp only [Except.map, reduceCtorEq, exists_false]
    | ok records => simp only [Except.map, Except.ok.injEq, exists_eq']
  refine ⟨hiff, fun found hfound => ?_⟩
  have hlimits := hiff.mp ⟨found, hfound⟩
  refine ⟨?_, fun t other hnesting hkept => ?_, ?_⟩
  · rw [hanswer, Audit.recordsOn_eq hlimits] at hfound
    exact (Except.ok.inj hfound).symm
  · rw [recentChanges_congr hpath hread hkept hnesting (Audit.recordsOn_recordLines hlimits),
      hfound]
  · rintro before bad behind rfl hfeed hreturn hnone hexcess t other hnesting hinserted
    obtain ⟨front, hlines, hlines'⟩ := Audit.linesOf_insert hfeed hreturn before behind
    have hsame := Audit.recordsOn_insert hnone hexcess front (Audit.linesOf behind)
    rw [← hlines, ← hlines'] at hsame
    rw [recentChanges_congr hpath hread hinserted hnesting hsame, hfound]

/-- A site with a single file, where sequences and mappings may lie in each other twice. -/
def holding (text : String) : Site :=
  { Site.quiet with
    nesting := ⟨2, 0, 0⟩
    files := ⟨[(workingPlace ++ ["audit.log"], text)], []⟩ }

theorem read_holding (text : String) : (holding text).files.read "audit.log" = .ok text := rfl

/-- A word in front of a record is passed over, and so is a sequence between the two. -/
theorem recentChanges_passes_over_word :
    (holding ("oops" ++ "\n" ++ Audit.Record.tangled.toJson)).files.read "audit.log" =
        .ok ("oops" ++ "\n" ++ Audit.Record.tangled.toJson) ∧
      (holding ("oops" ++ "\n" ++ Audit.Record.tangled.toJson)).recentChanges (some "audit.log")
        (some "leaf\\\"1\\") none 5 = .ok [Audit.Record.tangled] ∧
      (holding (Audit.recordLines 2 ("oops" ++ "\n" ++ Audit.Record.tangled.toJson))).recentChanges
        (some "audit.log") (some "leaf\\\"1\\") none 5 = .ok [Audit.Record.tangled] ∧
      (holding ("oops" ++ "\n" ++ "[1, null]" ++ "\n" ++ Audit.Record.tangled.toJson)).recentChanges
        (some "audit.log") (some "leaf\\\"1\\") none 5 = .ok [Audit.Record.tangled] := by
  have hplain := Audit.Record.tangled_isDeclared.isPlain 0
  obtain ⟨hrecord, hexcess⟩ := Audit.recordOn?_toJson hplain
  have hclean := Audit.toJson_clean hplain
  generalize Audit.Record.tangled.toJson = line at hrecord hexcess hclean ⊢
  have hlines : Audit.linesOf ("oops" ++ "\n" ++ line) = ["oops".toList, line.toList] := by
    have hjoin := Audit.linesOf_join (List.cons_ne_nil "oops".toList [line.toList])
      (List.forall_mem_cons.mpr ⟨by decide, List.forall_mem_singleton.mpr hclean⟩)
    rwa [List.map_cons, List.map_cons, String.ofList_toList, String.ofList_toList] at hjoin
  have hread := read_holding ("oops" ++ "\n" ++ line)
  have hpath : (some "audit.log").getD (Path.joined
      ((holding ("oops" ++ "\n" ++ line)).auditDirectory none) Audit.fileName) = "audit.log" := rfl
  obtain ⟨hiff, hgiven⟩ := recentChanges_passes_over hpath hread (some "leaf\\\"1\\") none 5
  have hroom : (holding ("oops" ++ "\n" ++ line)).nesting.json = 2 := rfl
  rw [hlines, hroom] at hiff hgiven
  obtain ⟨found, hfound⟩ := hiff.mpr
    (List.forall_mem_cons.mpr ⟨by decide +kernel, List.forall_mem_singleton.mpr hexcess⟩)
  obtain ⟨heq, hkept, hinserted⟩ := hgiven found hfound
  have hword : Audit.recordOn? 2 "oops".toList = none := by decide +kernel
  obtain rfl : found = [Audit.Record.tangled] := by
    rw [heq, List.filterMap_cons_none hword, List.filterMap_cons_some hrecord, List.filterMap_nil]
    decide +kernel
  exact ⟨hread, hfound, hkept _ _ rfl (read_holding _),
    hinserted "oops" "[1, null]" line rfl (by decide) (by decide) (by decide +kernel)
      (by decide +kernel) _ _ rfl (read_holding _)⟩

/-- A file with a single line, on which a number has one digit too many, is not read. -/
theorem recentChanges_stops_at_nines :
    ¬∀ (s : Site) (text : String), s.files.read "audit.log" = .ok text →
      ∃ found, s.recentChanges (some "audit.log") none none 100 = .ok found := by
  intro hclaim
  obtain ⟨nines, hnines⟩ : ∃ nines, nines = List.replicate (Number.maxDigits + 1) '9' := ⟨_, rfl⟩
  have hexcess : Audit.excessOn? 2 nines = some (.tooLong (Number.maxDigits + 1)) := by
    rw [hnines]
    exact Audit.excessOn?_nines (Nat.lt_succ_self _)
  have hother : ∀ c ∈ nines, c ≠ '\n' ∧ c ≠ '\r' := by
    intro c hc
    rw [hnines] at hc
    rw [(List.mem_replicate.mp hc).2]
    decide
  have hlines : Audit.linesOf (String.ofList nines) = [nines] := by
    rw [Audit.linesOf, String.toList_ofList,
      Text.unifyNewlines_eq_self fun hmem => (hother _ hmem).2 rfl]
    exact Text.pieces_of_forall_not fun c hc => beq_eq_false_iff_ne.mpr (hother c hc).1
  have hroom : (holding (String.ofList nines)).nesting.json = 2 := rfl
  obtain ⟨found, hfound⟩ := hclaim _ _ (read_holding (String.ofList nines))
  rw [recentChanges_of_read (Option.getD_some ..) (read_holding _), hlines, hroom,
    Audit.recordsOn_cons, hexcess] at hfound
  cases hfound

end Site

end LeafSwitch
