import LeafSwitch.Proofs.Site.Files
import LeafSwitch.Proofs.Text.Lines

/-!
# Spellings of a path

The path of something in a directory can be spelled without the pieces that lead nowhere, or by
putting the name behind the text of the directory. Both spellings lead to the same file, as long as
neither is too long.
-/

namespace LeafSwitch.Site

namespace Path

open Files (leadsOn base)

/-- A name that stands for itself in a path. -/
def IsPlain (name : String) : Prop :=
  leadsOn name = true ∧ '/' ∉ name.toList

/-- A plain name is one piece. -/
theorem IsPlain.pieces_eq {name : String} (h : IsPlain name) :
    Text.pieces (· == '/') name.toList = [name.toList] := by
  refine Text.pieces_of_forall_not fun c hc => beq_eq_false_iff_ne.mpr ?_
  rintro rfl
  exact h.2 hc

/-- A plain name has a character, and it does not begin with a slash. -/
theorem IsPlain.exists_cons {name : String} (h : IsPlain name) :
    ∃ c cs, name.toList = c :: cs ∧ c ≠ '/' := by
  have hne : name.toList ≠ [] := by
    intro hnil
    rw [String.toList_eq_nil_iff.mp hnil] at h
    exact absurd h.1 (by decide)
  obtain ⟨c, cs, hcs⟩ := List.exists_cons_of_ne_nil hne
  refine ⟨c, cs, hcs, ?_⟩
  rintro rfl
  exact h.2 (hcs ▸ List.mem_cons_self)

/-- Without a slash at its start, a text has no root. -/
theorem rootOf_of_head? {text : String} (h : text.toList.head? ≠ some '/') : rootOf text = "" := by
  have hnone : text.toList.takeWhile (· == '/') = [] := by
    cases hcs : text.toList with
    | nil => rfl
    | cons c cs =>
      refine List.takeWhile_cons_of_neg fun hc => h ?_
      rw [hcs, beq_iff_eq.mp hc]
      rfl
  rw [rootOf, hnone]
  rfl

/-- The names of a text are plain. -/
theorem isPlain_of_mem_namesOf {text name : String} (h : name ∈ namesOf text) : IsPlain name := by
  obtain ⟨hpiece, hname⟩ := List.mem_filter.mp h
  obtain ⟨cs, hcs, rfl⟩ := List.mem_map.mp hpiece
  refine ⟨hname, fun hslash => ?_⟩
  rw [String.toList_ofList] at hslash
  exact absurd (Text.mem_of_mem_pieces hcs hslash).2 (by decide)

/-- Names without empty ones and single dots are pieces of a text that lead on. -/
theorem namesOf_eq (text : String) : namesOf text = (pieces text).filter leadsOn := rfl

/-- Nothing stands behind a slash at the end. -/
theorem last_piece_eq_nil {cs last : List Char} {before : List (List Char)}
    (h : cs = [] ∨ cs.getLast? = some '/')
    (hlast : Text.pieces (· == '/') cs = before ++ [last]) : last = [] := by
  rcases h with rfl | h
  · exact (List.append_eq_singleton_iff.mp hlast.symm).elim (fun h => List.singleton_inj.mp h.2)
      fun h => absurd h.2 (List.cons_ne_nil _ _)
  · obtain ⟨front, hfront⟩ := List.getLast?_eq_some_iff.mp h
    obtain ⟨earlier, final, hfinal⟩ := Text.exists_eq_append_last (p := (· == '/')) front
    have hslash : Text.pieces (· == '/') ['/'] = [] :: [[]] := rfl
    rw [hfront, Text.pieces_append hfinal hslash, List.append_cons] at hlast
    exact (List.singleton_inj.mp (List.append_inj_right' hlast rfl)).symm

/-- The text of a directory with a name put behind it has the name as its last piece, behind the
names of the directory and pieces that lead nowhere. -/
theorem pieces_joined {name : String} (h : IsPlain name) (text : String) :
    ∃ front, pieces (joined text name) = front ++ [name] ∧
      front.filter leadsOn = namesOf text := by
  have hname := h.pieces_eq
  obtain ⟨before, last, hlast⟩ := Text.exists_eq_append_last (p := (· == '/')) text.toList
  have hnames : namesOf text =
      (before.map String.ofList ++ [String.ofList last]).filter leadsOn := by
    rw [namesOf_eq, pieces, hlast, List.map_append, List.map_singleton]
  rw [joined]
  split
  · rename_i hend
    have hnil : last = [] := by
      rw [Bool.or_eq_true, String.isEmpty_iff, beq_iff_eq] at hend
      exact last_piece_eq_nil (hend.imp_left fun h => h ▸ rfl) hlast
    refine ⟨before.map String.ofList, ?_, ?_⟩
    · rw [pieces, String.toList_append, Text.pieces_append hlast hname, hnil, List.nil_append,
        List.map_append, List.map_singleton, String.ofList_toList]
    · rw [hnames, hnil, List.filter_append]
      exact (List.append_nil _).symm
  · have hslash : Text.pieces (· == '/') ('/' :: name.toList) = [] :: [name.toList] := by
      rw [Text.pieces_cons_of_cut rfl, hname]
    have happend := Text.pieces_append hlast hslash
    refine ⟨before.map String.ofList ++ [String.ofList last], ?_, hnames.symm⟩
    have hchars : (text ++ "/" ++ name).toList = text.toList ++ '/' :: name.toList := by
      rw [String.toList_append, String.toList_append, List.append_assoc]
      rfl
    rw [pieces, hchars, happend, List.append_nil, List.append_assoc, List.map_append,
      List.map_cons, List.map_singleton, String.ofList_toList]
    rfl

/-- Slashes at the start of a text make pieces that lead nowhere. -/
theorem pieces_slashes {slashes : List Char} (h : ∀ c ∈ slashes, c = '/') (cs : List Char) :
    ∃ front : List String, (Text.pieces (· == '/') (slashes ++ cs)).map String.ofList =
        front ++ (Text.pieces (· == '/') cs).map String.ofList ∧
      front.filter leadsOn = [] := by
  induction slashes with
  | nil => exact ⟨[], rfl, rfl⟩
  | cons c slashes ih =>
    obtain ⟨front, hfront, hempty⟩ := ih fun d hd => h d (List.mem_cons_of_mem c hd)
    obtain rfl := h c List.mem_cons_self
    refine ⟨"" :: front, ?_, hempty⟩
    rw [List.cons_append, Text.pieces_cons_of_cut rfl, List.map_cons, hfront]
    rfl

/-- A name with slashes behind it. -/
def slashed (name : String) (count : Nat) : String :=
  name ++ String.ofList (List.replicate count '/')

theorem toList_slashed (name : String) (count : Nat) :
    (slashed name count).toList = name.toList ++ List.replicate count '/' := by
  rw [slashed, String.toList_append, String.toList_ofList]

/-- Behind a slash, a name needs no further one. -/
theorem joined_slashed (directory name : String) (count : Nat) :
    joined (slashed directory (count + 1)) name = slashed directory (count + 1) ++ name := by
  have hlast : (slashed directory (count + 1)).toList.getLast? = some '/' := by
    rw [toList_slashed, List.replicate_succ', ← List.append_assoc]
    exact List.getLast?_concat
  rw [joined, hlast, beq_self_eq_true, Bool.or_true, if_pos rfl]

/-- Slashes behind a plain name mean nothing. -/
theorem ofText_slashes {name : String} (h : IsPlain name) (count : Nat) :
    ofText (slashed name (count + 1)) = ⟨"", [name]⟩ := by
  have hchars : (slashed name (count + 1)).toList =
      name.toList ++ '/' :: List.replicate count '/' := by
    rw [toList_slashed, List.replicate_succ]
  have hroot : rootOf (slashed name (count + 1)) = "" := by
    obtain ⟨c, cs, hcs, hc⟩ := h.exists_cons
    apply rootOf_of_head?
    rw [hchars, hcs]
    exact fun hhead => hc (Option.some.inj hhead)
  have hnames : namesOf (slashed name (count + 1)) = [name] := by
    have hslashes : ∀ c ∈ List.replicate count '/', c = '/' :=
      fun c hc => (List.mem_replicate.mp hc).2
    obtain ⟨front, hfront, hempty⟩ := pieces_slashes hslashes []
    have hbehind := Text.pieces_cons_of_cut (p := (· == '/')) (c := '/') rfl
      (List.replicate count '/')
    have hpieces := Text.pieces_append (h.pieces_eq.trans (List.nil_append _).symm) hbehind
    rw [List.append_nil] at hfront
    rw [namesOf_eq, pieces, hchars, hpieces, List.nil_append, List.append_nil, List.map_cons,
      String.ofList_toList, hfront, List.filter_cons_of_pos h.1, List.filter_append, hempty]
    rfl
  rw [ofText, hroot, hnames]

/-- The root is made of slashes. -/
theorem eq_slash_of_mem_rootOf {text : String} {c : Char} (h : c ∈ (rootOf text).toList) :
    c = '/' := by
  revert h
  rw [rootOf]
  split
  · exact fun h => absurd h List.not_mem_nil
  · intro h
    have hall : "//".toList = List.replicate 2 '/' := rfl
    exact (List.mem_replicate.mp (hall ▸ h)).2
  · intro h
    exact List.mem_singleton.mp h

/-- The names of a directory and a plain name are plain. -/
theorem isPlain_of_mem {text name n : String} (h : IsPlain name)
    (hn : n ∈ namesOf text ++ [name]) : IsPlain n := by
  rcases List.mem_append.mp hn with hn | hn
  · exact isPlain_of_mem_namesOf hn
  · rw [List.mem_singleton.mp hn]
    exact h

/-- The text of something in a directory. -/
theorem text_child {name : String} (h : IsPlain name) (text : String) :
    ((ofText text).child name).text =
      rootOf text ++ Text.join "/" (namesOf text ++ [name]) := by
  have hname : namesOf name = [name] := by
    rw [namesOf_eq, pieces, h.pieces_eq, List.map_singleton, String.ofList_toList,
      List.filter_cons_of_pos h.1, List.filter_nil]
  have hne : ¬((rootOf text).isEmpty && (namesOf text ++ [name]).isEmpty) = true := by
    rw [Bool.and_eq_true, List.isEmpty_iff]
    exact fun h => absurd h.2 (List.concat_ne_nil _ _)
  rw [child, hname, Path.text]
  exact if_neg hne

theorem map_ofList_toList (names : List String) :
    (names.map String.toList).map String.ofList = names := by
  rw [List.map_map]
  refine (List.map_congr_left fun n _ => ?_).trans (List.map_id _)
  exact String.ofList_toList

/-- Names that are joined by slashes are the pieces of what they make. -/
theorem pieces_join_namesOf {name : String} (h : IsPlain name) (text : String) :
    Text.pieces (· == '/') (Text.join "/" (namesOf text ++ [name])).toList =
      (namesOf text ++ [name]).map String.toList := by
  have hslash : ∀ cs ∈ (namesOf text ++ [name]).map String.toList, '/' ∉ cs := by
    intro cs hcs
    obtain ⟨n, hn, rfl⟩ := List.mem_map.mp hcs
    exact (isPlain_of_mem h hn).2
  have hnil : (namesOf text ++ [name]).map String.toList ≠ [] := by
    rw [ne_eq, List.map_eq_nil_iff]
    exact List.concat_ne_nil _ _
  have hseparator : "/".toList = ['/'] := rfl
  have hjoin := Text.pieces_join hseparator hnil hslash
  rwa [map_ofList_toList] at hjoin

/-- The path of something in a directory has the same last piece, and the same others that lead
on. -/
theorem pieces_text_child {name : String} (h : IsPlain name) (text : String) :
    ∃ front, pieces ((ofText text).child name).text = front ++ [name] ∧
      front.filter leadsOn = namesOf text := by
  have hroot : ∀ c ∈ (rootOf text).toList, c = '/' := fun c hc => eq_slash_of_mem_rootOf hc
  obtain ⟨front, hfront, hempty⟩ :=
    pieces_slashes hroot (Text.join "/" (namesOf text ++ [name])).toList
  refine ⟨front ++ namesOf text, ?_, ?_⟩
  · rw [text_child h, pieces, String.toList_append, hfront, pieces_join_namesOf h,
      map_ofList_toList, List.append_assoc]
  · rw [List.filter_append, hempty, List.nil_append]
    exact List.filter_eq_self.mpr fun n hn => (isPlain_of_mem_namesOf hn).1

/-- A text with a name behind it begins with a slash where the text does. -/
theorem head?_joined {name : String} (h : IsPlain name) (text : String) :
    (joined text name).toList.head? = some '/' ↔ text.toList.head? = some '/' := by
  rw [joined]
  cases hcs : text.toList with
  | nil =>
    have hempty : text = "" := String.toList_eq_nil_iff.mp hcs
    rw [hempty]
    constructor
    · intro hhead
      have hname : ("" ++ name).toList.head? = some '/' := hhead
      rw [String.empty_append] at hname
      exact absurd (List.mem_of_head? hname) h.2
    · intro hhead
      cases hhead
  | cons c cs =>
    split
    · rw [String.toList_append, hcs]
      rfl
    · rw [String.toList_append, String.toList_append, hcs]
      rfl

/-- The path of something in a directory begins with a slash where the text of the directory
does. -/
theorem head?_text_child {name : String} (h : IsPlain name) (text : String) :
    ((ofText text).child name).text.toList.head? = some '/' ↔ text.toList.head? = some '/' := by
  rw [text_child h, String.toList_append]
  by_cases hhead : text.toList.head? = some '/'
  · have hroot : (rootOf text).toList.head? = some '/' := by
      obtain ⟨cs, hcs⟩ := List.head?_eq_some_iff.mp hhead
      rw [rootOf, hcs, List.takeWhile_cons_of_pos rfl, List.length_cons]
      split
      · rename_i hzero
        exact absurd hzero (Nat.succ_ne_zero _)
      · rfl
      · rfl
    rw [List.head?_append, hroot]
    exact ⟨fun _ => hhead, fun _ => rfl⟩
  · rw [rootOf_of_head? hhead]
    refine ⟨fun hjoin => ?_, fun hother => absurd hother hhead⟩
    obtain ⟨cs, hcs⟩ := List.head?_eq_some_iff.mp hjoin
    have hpieces := pieces_join_namesOf h text
    have hcut : (Text.join "/" (namesOf text ++ [name])).toList = '/' :: cs := hcs
    rw [hcut, Text.pieces_cons_of_cut rfl] at hpieces
    have hmem : [] ∈ (namesOf text ++ [name]).map String.toList := hpieces ▸ List.mem_cons_self
    obtain ⟨n, hn, hnil⟩ := List.mem_map.mp hmem
    obtain ⟨c, cs, hcs, _⟩ := (isPlain_of_mem h hn).exists_cons
    exact absurd (hcs.symm.trans hnil) (List.cons_ne_nil c cs)

/-- A text with a name behind it sets out from where its path does. -/
theorem base_joined {name : String} (h : IsPlain name) (text : String) :
    base (joined text name) = base ((ofText text).child name).text := by
  rw [base, base]
  simp only [head?_joined h, head?_text_child h]

/-- What the text of a directory with a name behind it is made of, its path is made of. -/
theorem mem_text_child {name : String} (h : IsPlain name) {text : String} {c : Char}
    (hc : c ∈ (joined text name).toList) (hslash : c ≠ '/') (hdot : c ≠ '.') :
    c ∈ ((ofText text).child name).text.toList := by
  obtain ⟨front, hfront, hsame⟩ := pieces_joined h text
  obtain ⟨front', hfront', hsame'⟩ := pieces_text_child h text
  obtain ⟨w, hw, hcw⟩ := Text.exists_mem_pieces (p := (· == '/')) hc
    (beq_eq_false_iff_ne.mpr hslash)
  have hon : leadsOn (String.ofList w) = true := by
    rw [← Bool.not_eq_false, Files.leadsOn_eq_false_iff, ← String.toList_inj, ← String.toList_inj,
      String.toList_ofList]
    rintro (rfl | rfl)
    · exact List.not_mem_nil hcw
    · exact hdot (List.mem_singleton.mp hcw)
  have hmem : String.ofList w ∈ (pieces (joined text name)).filter leadsOn :=
    List.mem_filter.mpr ⟨List.mem_map_of_mem hw, hon⟩
  rw [hfront, List.filter_append, hsame, ← hsame', ← List.filter_append, ← hfront'] at hmem
  obtain ⟨v, hv, hvw⟩ := List.mem_map.mp (List.mem_filter.mp hmem).1
  rw [String.ofList_inj.mp hvw] at hv
  exact (Text.mem_of_mem_pieces hv hcw).1

end Path

/-- Where the path of a file in a directory leads to, the text of the directory with the name behind
it leads as well, unless it is too long. -/
theorem Files.spot_joined {files : Files} {directory name text : String} {place : Place}
    (hname : Path.IsPlain name)
    (h : files.spot ((Path.ofText directory).child name).text = .ok (.file place text))
    (hshort : (Text.sent (Path.joined directory name)).utf8ByteSize ≤ pathLimit) :
    files.spot (Path.joined directory name) = .ok (.file place text) := by
  obtain ⟨hpath, hway⟩ := spot_eq_ok_iff.mp h
  obtain ⟨front, hfront, hsame⟩ := Path.pieces_joined hname directory
  obtain ⟨front', hfront', hsame'⟩ := Path.pieces_text_child hname directory
  -- Without the pieces that lead nowhere, both spellings are the names of the directory and `name`.
  have hfilter := hway.filter
  rw [hfront', List.filter_append, hsame', ← hsame, List.filter_cons_of_pos hname.1,
    List.filter_nil] at hfilter
  have hjoined := hfilter.of_filter
  rw [← hfront, ← Path.base_joined hname] at hjoined
  refine spot_eq_ok_iff.mpr ⟨⟨?_, ?_, hshort⟩, hjoined⟩
  · exact fun hzero => hpath.zero (Path.mem_text_child hname hzero (by decide) (by decide))
  · intro hempty
    rw [hempty] at hfront
    have hone : [] ++ [""] = front ++ [name] := hfront
    have hlast : "" = name := List.singleton_inj.mp (List.append_inj_right' hone rfl)
    rw [← hlast] at hname
    exact absurd hname.1 (by decide)

end LeafSwitch.Site
