import LeafSwitch.Site.Files
import Mathlib.Tactic.SplitIfs

/-!
# Adding to files

What is added to a file is read behind what was there, also where the file is only made by that.
-/

namespace LeafSwitch.Site.Files

variable {files : Files} {path text : String} {place : Place}

/-- A file is read where its path leads to it. -/
theorem read_eq_ok_iff :
    files.read path = .ok text ↔ ∃ place, files.spot path = .ok (.file place text) := by
  rw [read]
  cases hspot : files.spot path with
  | error e =>
    constructor
    · intro h
      cases h
    · rintro ⟨place, h⟩
      cases h
  | ok spot =>
    cases spot with
    | file place found =>
      constructor
      · intro h
        obtain rfl : found = text := Except.ok.inj h
        exact ⟨place, rfl⟩
      · rintro ⟨_, h⟩
        cases h
        rfl
    | directory place | vacant place =>
      constructor
      · intro h
        cases h
      · rintro ⟨_, h⟩
        cases h

/-- There is something where a file can be read. -/
theorem holds_of_spot_file (h : files.spot path = .ok (.file place text)) :
    files.holds path = true := by
  rw [holds, h]

/-! ### Ways -/

/-- Whether a piece of a path leads on. -/
def leadsOn (piece : String) : Bool :=
  piece != "" && piece != "."

/-- A piece of a path that names something in a directory. -/
structure IsName (piece : String) : Prop where
  /-- It is not empty. -/
  ne_empty : piece ≠ ""
  /-- It is not the directory itself. -/
  ne_dot : piece ≠ "."
  /-- It does not lead back. -/
  ne_dots : piece ≠ ".."
  /-- It is not too long. -/
  short : (Text.sent piece).utf8ByteSize ≤ nameLimit

/-- A name leads on. -/
theorem IsName.leadsOn {piece : String} (h : IsName piece) : leadsOn piece = true := by
  rw [Files.leadsOn, Bool.and_eq_true, bne_iff_ne, bne_iff_ne]
  exact ⟨h.ne_empty, h.ne_dot⟩

/-- The way that pieces of a path take from a directory to what they lead to. -/
inductive Leads (files : Files) : Place → List String → Spot → Prop where
  /-- Without pieces the way ends. -/
  | stay {here : Place} : Leads files here [] (.directory here)
  /-- An empty piece and a single dot lead nowhere. -/
  | skip {here : Place} {piece : String} {rest : List String} {s : Spot}
    (skipped : piece = "" ∨ piece = ".") (way : Leads files here rest s) :
    Leads files here (piece :: rest) s
  /-- Two dots lead back. -/
  | back {here : Place} {rest : List String} {s : Spot}
    (way : Leads files here.dropLast rest s) : Leads files here (".." :: rest) s
  /-- The name of a directory leads into it. -/
  | enter {here : Place} {piece : String} {rest : List String} {s : Spot} (name : IsName piece)
    (inside : files.isDirectory (here ++ [piece]) = true)
    (way : Leads files (here ++ [piece]) rest s) : Leads files here (piece :: rest) s
  /-- The name of a file leads to it. -/
  | file {here : Place} {piece text : String} (name : IsName piece)
    (outside : files.isDirectory (here ++ [piece]) = false)
    (found : files.texts.lookup (here ++ [piece]) = some text) :
    Leads files here [piece] (.file (here ++ [piece]) text)
  /-- Any other name leads to a place for it. -/
  | vacant {here : Place} {piece : String} {rest : List String} (name : IsName piece)
    (outside : files.isDirectory (here ++ [piece]) = false)
    (missing : files.texts.lookup (here ++ [piece]) = none) (last : ∀ more ∈ rest, more = "") :
    Leads files here (piece :: rest) (.vacant (here ++ [piece]))

private theorem skipped_iff {piece : String} :
    (decide (piece = "") || decide (piece = ".")) = true ↔ piece = "" ∨ piece = "." := by
  rw [Bool.or_eq_true, decide_eq_true_eq, decide_eq_true_eq]

/-- A name leads into a directory, to a file, or to a place for one. -/
theorem walk_name (files : Files) (path : String) (here : Place) {piece : String}
    (h : IsName piece) (rest : List String) :
    files.walk path here (piece :: rest) =
      if files.isDirectory (here ++ [piece]) then files.walk path (here ++ [piece]) rest
      else
        match files.texts.lookup (here ++ [piece]) with
        | some text =>
          if rest.isEmpty then .ok (.file (here ++ [piece]) text) else .error (.notDirectory path)
        | none =>
          if rest.all (· == "") then .ok (.vacant (here ++ [piece]))
          else .error (.missing path) := by
  have hskip : ¬(piece = "" ∨ piece = ".") := not_or.mpr ⟨h.ne_empty, h.ne_dot⟩
  rw [walk, if_neg (mt skipped_iff.mp hskip), if_neg h.ne_dots]
  exact if_neg (Nat.not_lt.mpr h.short)

/-- A path is followed exactly along its way. -/
theorem walk_eq_ok_iff (path : String) {here : Place} {pieces : List String} {s : Spot} :
    files.walk path here pieces = .ok s ↔ Leads files here pieces s := by
  constructor
  · intro h
    induction pieces generalizing here with
    | nil =>
      obtain rfl := Except.ok.inj h
      exact .stay
    | cons piece rest ih =>
      by_cases hskip : piece = "" ∨ piece = "."
      · rw [walk, if_pos (skipped_iff.mpr hskip)] at h
        exact .skip hskip (ih h)
      by_cases hback : piece = ".."
      · subst hback
        exact .back (ih h)
      by_cases hlong : (Text.sent piece).utf8ByteSize > nameLimit
      · rw [walk, if_neg (mt skipped_iff.mp hskip), if_neg hback, if_pos hlong] at h
        cases h
      have hname : IsName piece :=
        ⟨fun h => hskip (Or.inl h), fun h => hskip (Or.inr h), hback, Nat.not_lt.mp hlong⟩
      rw [walk_name files path here hname] at h
      cases hdirectory : files.isDirectory (here ++ [piece]) with
      | true =>
        rw [hdirectory, if_pos rfl] at h
        exact .enter hname hdirectory (ih h)
      | false =>
        rw [hdirectory, if_neg Bool.false_ne_true] at h
        cases hlookup : files.texts.lookup (here ++ [piece]) with
        | some text =>
          rw [hlookup] at h
          dsimp only at h
          split at h
          · rename_i hrest
            obtain rfl := Except.ok.inj h
            rw [List.isEmpty_iff.mp hrest]
            exact .file hname hdirectory hlookup
          · cases h
        | none =>
          rw [hlookup] at h
          dsimp only at h
          split at h
          · rename_i hrest
            obtain rfl := Except.ok.inj h
            refine .vacant hname hdirectory hlookup fun more hmore => ?_
            exact beq_iff_eq.mp (List.all_eq_true.mp hrest more hmore)
          · cases h
  · intro h
    induction h with
    | stay => rfl
    | skip hskip _ ih => rw [walk, if_pos (skipped_iff.mpr hskip), ih]
    | back _ ih => exact ih
    | enter hname hdirectory _ ih => rw [walk_name files path _ hname, hdirectory, if_pos rfl, ih]
    | file hname hdirectory hlookup =>
      rw [walk_name files path _ hname, hdirectory, hlookup]
      rfl
    | @vacant _ _ rest hname hdirectory hlookup hlast =>
      have hrest : rest.all (· == "") = true :=
        List.all_eq_true.mpr fun more hmore => beq_iff_eq.mpr (hlast more hmore)
      rw [walk_name files path _ hname, hdirectory, hlookup, if_neg Bool.false_ne_true]
      dsimp only
      rw [if_pos hrest]

/-- The directory from which a path goes. -/
def base (path : String) : Place :=
  if path.toList.head? = some '/' then [] else workingPlace

/-- A path that can be followed. -/
structure IsPath (path : String) : Prop where
  /-- It does not hold the zero character. -/
  zero : '\x00' ∉ path.toList
  /-- It is not empty. -/
  ne_empty : path ≠ ""
  /-- It is not too long. -/
  short : (Text.sent path).utf8ByteSize ≤ pathLimit

/-- A path leads where its pieces lead. -/
theorem spot_eq_ok_iff {s : Spot} :
    files.spot path = .ok s ↔ IsPath path ∧ Leads files (base path) (Path.pieces path) s := by
  rw [← walk_eq_ok_iff path, spot]
  by_cases hzero : path.toList.contains '\x00' = true
  · rw [if_pos hzero]
    refine ⟨fun h => (nomatch h), fun h => (h.1.zero (List.contains_iff_mem.mp hzero)).elim⟩
  rw [if_neg hzero]
  by_cases hempty : path.isEmpty = true
  · rw [if_pos hempty]
    exact ⟨fun h => (nomatch h), fun h => (h.1.ne_empty (String.isEmpty_iff.mp hempty)).elim⟩
  rw [if_neg hempty]
  by_cases hlong : (Text.sent path).utf8ByteSize > pathLimit
  · rw [if_pos hlong]
    exact ⟨fun h => (nomatch h), fun h => (Nat.not_lt.mpr h.1.short hlong).elim⟩
  rw [if_neg hlong]
  have hpath : IsPath path := ⟨fun h => hzero (List.contains_iff_mem.mpr h),
    fun h => hempty (String.isEmpty_iff.mpr h), Nat.not_lt.mp hlong⟩
  exact ⟨fun h => ⟨hpath, h⟩, And.right⟩

/-! ### A file that is there -/

/-- The files after more has been written behind the text at a place. -/
def extended (files : Files) (place : Place) (addition : String) : Files :=
  { files with
    texts := files.texts.map fun p => (p.1, if p.1 == place then p.2 ++ addition else p.2) }

/-- Adding to a file writes behind its text. -/
theorem append_of_file (h : files.spot path = .ok (.file place text)) (addition : String) :
    files.append path addition = .ok (files.extended place addition) := by
  rw [append, h, extended]
  refine congrArg (fun texts => Except.ok (Files.mk texts files.directories)) ?_
  refine List.map_congr_left fun p _ => ?_
  dsimp only
  split
  · rfl
  · rfl

@[simp] theorem isDirectory_extended (files : Files) (place : Place) (addition : String)
    (q : Place) : (files.extended place addition).isDirectory q = files.isDirectory q := by
  rw [isDirectory, isDirectory, extended, List.any_map]
  rfl

/-- A text is found with what is added to it. -/
theorem lookup_extended (files : Files) (place : Place) (addition : String) (q : Place) :
    (files.extended place addition).texts.lookup q =
      (files.texts.lookup q).map fun text => if q == place then text ++ addition else text := by
  rw [extended]
  induction files.texts with
  | nil => rfl
  | cons p rest ih =>
    rw [List.map_cons, List.lookup_cons, List.lookup_cons, ih]
    cases hq : q == p.1 with
    | false => rfl
    | true =>
      rw [← beq_iff_eq.mp hq]
      rfl

/-- The way to a file stays the way to it. -/
theorem Leads.extended {here : Place} {pieces : List String}
    (h : Leads files here pieces (.file place text)) (addition : String) :
    Leads (files.extended place addition) here pieces (.file place (text ++ addition)) := by
  generalize hs : Spot.file place text = s at h
  induction h with
  | stay => cases hs
  | skip hskip _ ih => exact .skip hskip (ih hs)
  | back _ ih => exact .back (ih hs)
  | enter hname hdirectory _ ih =>
    exact .enter hname ((isDirectory_extended ..).trans hdirectory) (ih hs)
  | file hname hdirectory hlookup =>
    obtain ⟨rfl, rfl⟩ := Spot.file.inj hs
    refine .file hname ((isDirectory_extended ..).trans hdirectory) ?_
    rw [lookup_extended, hlookup, Option.map_some, BEq.rfl, if_pos rfl]
  | vacant => cases hs

/-- What is added to a file is read behind its text. -/
theorem spot_extended (h : files.spot path = .ok (.file place text)) (addition : String) :
    (files.extended place addition).spot path = .ok (.file place (text ++ addition)) := by
  obtain ⟨hpath, hway⟩ := spot_eq_ok_iff.mp h
  exact spot_eq_ok_iff.mpr ⟨hpath, hway.extended addition⟩

/-! ### A file that is made -/

/-- The files with one more. -/
def created (files : Files) (place : Place) (text : String) : Files :=
  { files with texts := files.texts ++ [(place, text)] }

/-- Adding to a file that is not there makes it. -/
theorem append_of_vacant (h : files.spot path = .ok (.vacant place)) (addition : String) :
    files.append path addition = .ok (files.created place addition) := by
  rw [append, h]
  rfl

/-- What lies above a directory is a directory. -/
theorem isDirectory_above {q here : Place} (hq : q <+: here)
    (h : files.isDirectory here = true) : files.isDirectory q = true := by
  simp only [isDirectory, Bool.or_eq_true, List.any_eq_true, List.isPrefixOf_iff_prefix] at h ⊢
  rcases h with (h | ⟨p, hp, h⟩) | ⟨p, hp, h⟩
  · exact Or.inl (Or.inl (hq.trans h))
  · exact Or.inl (Or.inr ⟨p, hp, hq.trans h⟩)
  · exact Or.inr ⟨p, hp, hq.trans h⟩

/-- Directories stay when a file is made. -/
theorem isDirectory_created_of (place : Place) (text : String) {q : Place}
    (h : files.isDirectory q = true) : (files.created place text).isDirectory q = true := by
  rw [isDirectory, Bool.or_eq_true] at h ⊢
  refine h.imp_right fun h => ?_
  rw [created, List.any_append, h, Bool.true_or]

/-- A file that is made lies in a directory that was there, so no directory comes with it. -/
theorem isDirectory_created {here : Place} (h : files.isDirectory here = true) (name text : String)
    (q : Place) : (files.created (here ++ [name]) text).isDirectory q = files.isDirectory q := by
  have hmore : (files.created (here ++ [name]) text).isDirectory q =
      (files.isDirectory q || q.isPrefixOf here) := by
    simp only [isDirectory, created, List.any_append, List.any_cons, List.any_nil, Bool.or_false,
      List.dropLast_concat, Bool.or_assoc]
  rw [hmore]
  cases hq : q.isPrefixOf here with
  | false => exact Bool.or_false _
  | true => rw [isDirectory_above (List.isPrefixOf_iff_prefix.mp hq) h, Bool.or_true]

/-- The way to the place of a file becomes the way to the file, unless the path goes on behind its
name. -/
theorem Leads.created {here : Place} {pieces : List String}
    (h : Leads files here pieces (.vacant place)) (hhere : files.isDirectory here = true)
    (hlast : ∀ front, pieces ≠ front ++ [""]) (text : String) :
    Leads (files.created place text) here pieces (.file place text) := by
  generalize hs : Spot.vacant place = s at h
  induction h with
  | stay | file => cases hs
  | @skip _ piece _ _ hskip _ ih =>
    exact .skip hskip (ih hhere (fun front heq => hlast (piece :: front) (heq ▸ rfl)) hs)
  | @back here _ _ _ ih =>
    have habove := isDirectory_above here.dropLast_prefix hhere
    exact .back (ih habove (fun front heq => hlast (".." :: front) (heq ▸ rfl)) hs)
  | @enter _ piece _ _ hname hinside _ ih =>
    refine .enter hname (isDirectory_created_of place text hinside) ?_
    exact ih hinside (fun front heq => hlast (piece :: front) (heq ▸ rfl)) hs
  | @vacant here piece rest hname houtside hmissing hempty =>
    obtain rfl := Spot.vacant.inj hs
    -- Only empty pieces may stand behind a name that is not there, and the path ends in none.
    have hrest : rest = [] := by
      rcases List.eq_nil_or_concat rest with hnil | ⟨front, last, hconcat⟩
      · exact hnil
      · rw [List.concat_eq_append] at hconcat
        have hmem : last ∈ rest := hconcat ▸ List.mem_concat_self
        rw [hconcat, hempty last hmem] at hlast
        exact absurd rfl (hlast (piece :: front))
    have hlookup : (files.created (here ++ [piece]) text).texts.lookup (here ++ [piece]) =
        some text := by
      rw [Files.created, List.lookup_append, hmissing, List.lookup_cons_self]
      rfl
    rw [hrest]
    exact .file hname ((isDirectory_created hhere piece text _).trans houtside) hlookup

/-- A path sets out from a directory. -/
theorem isDirectory_base (files : Files) (path : String) :
    files.isDirectory (base path) = true := by
  have hprefix : (base path).isPrefixOf workingPlace = true := by
    rw [base]
    split <;> rfl
  rw [isDirectory, hprefix, Bool.true_or, Bool.true_or]

/-- A file that is made is read where it was made, with what was written. -/
theorem spot_created (h : files.spot path = .ok (.vacant place))
    (hlast : ∀ front, Path.pieces path ≠ front ++ [""]) (text : String) :
    (files.created place text).spot path = .ok (.file place text) := by
  obtain ⟨hpath, hway⟩ := spot_eq_ok_iff.mp h
  exact spot_eq_ok_iff.mpr ⟨hpath, hway.created (files.isDirectory_base path) hlast text⟩

/-- What is added to a file is read behind what was there, be it nothing. -/
theorem read_append {after : Files} {addition : String}
    (h : files.append path addition = .ok after)
    (hlast : ∀ front, Path.pieces path ≠ front ++ [""]) :
    after.read path = .ok (files.textAt path ++ addition) := by
  cases hspot : files.spot path with
  | error e =>
    rw [append, hspot] at h
    cases h
  | ok s =>
    cases s with
    | directory place =>
      rw [append, hspot] at h
      cases h
    | file place text =>
      have htext : files.textAt path = text := by
        rw [textAt, read_eq_ok_iff.mpr ⟨place, hspot⟩]
        rfl
      rw [append_of_file hspot] at h
      rw [← Except.ok.inj h, htext]
      exact read_eq_ok_iff.mpr ⟨place, spot_extended hspot addition⟩
    | vacant place =>
      have htext : files.textAt path = "" := by
        rw [textAt, read, hspot]
        rfl
      rw [append_of_vacant hspot] at h
      rw [← Except.ok.inj h, htext, String.empty_append]
      exact read_eq_ok_iff.mpr ⟨place, spot_created hspot hlast addition⟩

/-- To a file that can be read, anything can be added. -/
theorem exists_append (h : files.read path = .ok text) (addition : String) :
    ∃ after, files.append path addition = .ok after ∧
      after.read path = .ok (text ++ addition) := by
  obtain ⟨place, hspot⟩ := read_eq_ok_iff.mp h
  exact ⟨_, append_of_file hspot addition,
    read_eq_ok_iff.mpr ⟨place, spot_extended hspot addition⟩⟩

/-! ### Other spellings -/

theorem leadsOn_eq_false_iff {piece : String} :
    leadsOn piece = false ↔ piece = "" ∨ piece = "." := by
  rw [leadsOn, Bool.and_eq_false_iff, bne_eq_false_iff_eq, bne_eq_false_iff_eq]

/-- The way to a file takes no notice of pieces that lead nowhere. -/
theorem Leads.filter {here : Place} {pieces : List String}
    (h : Leads files here pieces (.file place text)) :
    Leads files here (pieces.filter leadsOn) (.file place text) := by
  generalize hs : Spot.file place text = s at h
  induction h with
  | stay | vacant => cases hs
  | @skip _ piece _ _ hskip _ ih =>
    rw [List.filter_cons_of_neg (Bool.eq_false_iff.mp (leadsOn_eq_false_iff.mpr hskip))]
    exact ih hs
  | back _ ih =>
    rw [List.filter_cons_of_pos (by decide)]
    exact .back (ih hs)
  | enter hname hinside _ ih =>
    rw [List.filter_cons_of_pos hname.leadsOn]
    exact .enter hname hinside (ih hs)
  | file hname houtside hfound =>
    rw [List.filter_cons_of_pos hname.leadsOn]
    exact .file hname houtside hfound

/-- Pieces that lead nowhere may be put before the last one of the way to a file. -/
theorem Leads.of_filter {here : Place} {front : List String} {last : String}
    (h : Leads files here (front.filter leadsOn ++ [last]) (.file place text)) :
    Leads files here (front ++ [last]) (.file place text) := by
  induction front generalizing here with
  | nil => exact h
  | cons piece rest ih =>
    cases hpiece : leadsOn piece with
    | false =>
      rw [List.filter_cons_of_neg (Bool.eq_false_iff.mp hpiece)] at h
      exact .skip (leadsOn_eq_false_iff.mp hpiece) (ih h)
    | true =>
      rw [List.filter_cons_of_pos hpiece, List.cons_append] at h
      generalize hpieces : piece :: (rest.filter leadsOn ++ [last]) = pieces at h
      cases h with
      | skip hskip _ =>
        obtain ⟨rfl, _⟩ := List.cons.inj hpieces
        rw [leadsOn_eq_false_iff.mpr hskip] at hpiece
        exact absurd hpiece Bool.false_ne_true
      | back hway =>
        obtain ⟨rfl, rfl⟩ := List.cons.inj hpieces
        exact .back (ih hway)
      | enter hname hinside hway =>
        obtain ⟨rfl, rfl⟩ := List.cons.inj hpieces
        exact .enter hname hinside (ih hway)
      | file hname houtside hfound =>
        exact absurd (List.cons.inj hpieces).2 (List.concat_ne_nil _ _)

end LeafSwitch.Site.Files
