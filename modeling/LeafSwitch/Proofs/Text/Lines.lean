import LeafSwitch.Proofs.Text.Words
import LeafSwitch.Text.Layout
import LeafSwitch.Text.Lines
import Mathlib.Data.List.TakeWhile

/-!
# Filled lines

A block is worked through by its lines that hold more than blanks, each of them trimmed. These
filled lines stay as they are when blanks are put around a text. Both notions of line give the same
filled lines as long as no line boundary stands inside a trimmed line.
-/

namespace LeafSwitch.Text

/-- The lines that hold more than blanks, trimmed. -/
def filled (lines : List (List Char)) : List (List Char) :=
  (lines.map trim).filter fun line => !line.isEmpty

theorem filled_append (a b : List (List Char)) : filled (a ++ b) = filled a ++ filled b := by
  simp only [filled, List.map_append, List.filter_append]

theorem filled_cons (line : List Char) (rest : List (List Char)) :
    filled (line :: rest) = filled [line] ++ filled rest :=
  filled_append [line] rest

/-- A line counts by what is left of it after trimming. -/
theorem filled_singleton_congr {a b : List Char} (h : trim a = trim b) :
    filled [a] = filled [b] := by
  simp only [filled, List.map_cons, List.map_nil, h]

/-! ### Trimming -/

/-- Blanks in front of a text are trimmed. -/
theorem trim_append_left {a : List Char} (ha : ∀ c ∈ a, isBlank c = true) (cs : List Char) :
    trim (a ++ cs) = trim cs := by
  rw [trim, trim, List.dropWhile_append_of_pos ha]

private theorem dropEndWhile_append {p : Char → Bool} {b : List Char}
    (hb : ∀ c ∈ b, p c = true) (cs : List Char) :
    dropEndWhile p (cs ++ b) = dropEndWhile p cs := by
  have hrev : ∀ c ∈ b.reverse, p c = true := by
    intro c hc
    exact hb c (List.mem_reverse.mp hc)
  rw [dropEndWhile, dropEndWhile, List.reverse_append, List.dropWhile_append_of_pos hrev]

/-- Blanks behind a text are trimmed. -/
theorem trim_append_right {b : List Char} (hb : ∀ c ∈ b, isBlank c = true) (cs : List Char) :
    trim (cs ++ b) = trim cs := by
  rw [trim, trim, List.dropWhile_append]
  by_cases hcs : (cs.dropWhile isBlank).isEmpty = true
  · have hnil : cs.dropWhile isBlank = [] := List.isEmpty_iff.mp hcs
    have hdrop : b.dropWhile isBlank = [] := List.dropWhile_eq_nil_iff.mpr hb
    rw [if_pos hcs, hdrop, hnil]
  · rw [if_neg hcs, dropEndWhile_append hb]

/-- Nothing is trimmed of a text between two characters that are not blank. -/
theorem trim_between {first last : Char} (hfirst : isBlank first = false)
    (hlast : isBlank last = false) (cs : List Char) :
    trim (first :: (cs ++ [last])) = first :: (cs ++ [last]) := by
  have hend : (first :: (cs ++ [last])).reverse = last :: (first :: cs).reverse := by
    rw [← List.cons_append, List.reverse_append]
    rfl
  rw [trim, List.dropWhile_cons_of_neg (Bool.eq_false_iff.mp hfirst), dropEndWhile, hend,
    List.dropWhile_cons_of_neg (Bool.eq_false_iff.mp hlast), ← hend, List.reverse_reverse]

/-- Nothing is left of blanks alone. -/
theorem trim_of_blank {cs : List Char} (h : ∀ c ∈ cs, isBlank c = true) : trim cs = [] := by
  rw [trim, List.dropWhile_eq_nil_iff.mpr h]
  rfl

/-- A text is what is left after trimming it, with blanks on both sides. -/
theorem exists_eq_append_trim (cs : List Char) :
    ∃ a b, (∀ c ∈ a, isBlank c = true) ∧ (∀ c ∈ b, isBlank c = true) ∧
      cs = a ++ (trim cs ++ b) := by
  let body := cs.dropWhile isBlank
  refine ⟨cs.takeWhile isBlank, (body.reverse.takeWhile isBlank).reverse, ?_, ?_, ?_⟩
  · intro c hc
    exact List.mem_takeWhile_imp hc
  · intro c hc
    exact List.mem_takeWhile_imp (List.mem_reverse.mp hc)
  · have hbody : trim cs ++ (body.reverse.takeWhile isBlank).reverse = body := by
      rw [trim, dropEndWhile, ← List.reverse_append, List.takeWhile_append_dropWhile,
        List.reverse_reverse]
    rw [hbody, List.takeWhile_append_dropWhile]

/-- Trimming adds nothing. -/
theorem mem_of_mem_trim {cs : List Char} {c : Char} (h : c ∈ trim cs) : c ∈ cs := by
  obtain ⟨a, b, _, _, hcs⟩ := exists_eq_append_trim cs
  rw [hcs]
  exact List.mem_append_right a (List.mem_append_left b h)

/-- Trimming a second time changes nothing. -/
theorem trim_trim (cs : List Char) : trim (trim cs) = trim cs := by
  obtain ⟨a, b, ha, hb, hcs⟩ := exists_eq_append_trim cs
  have hcore : trim (a ++ (trim cs ++ b)) = trim (trim cs) := by
    rw [trim_append_left ha, trim_append_right hb]
  exact ((congrArg trim hcs).trans hcore).symm

/-- Trimming a string a second time changes nothing. -/
theorem trimmed_trimmed (s : String) : trimmed (trimmed s) = trimmed s := by
  rw [trimmed, trimmed, String.toList_ofList, trim_trim]

/-- Nothing is left of a string after trimming exactly if it is blank. -/
theorem trimmed_eq_empty_iff (s : String) : trimmed s = "" ↔ ∀ c ∈ s.toList, isBlank c = true := by
  rw [trimmed, String.ofList_eq_empty_iff]
  constructor
  · intro hnil c hc
    obtain ⟨before, after, hbefore, hafter, hs⟩ := exists_eq_append_trim s.toList
    rw [hs, hnil, List.nil_append] at hc
    exact (List.mem_append.mp hc).elim (hbefore c) (hafter c)
  · exact trim_of_blank

/-- Blanks around a text do not change its words. -/
theorem words_of_blank_around {a b : List Char} (ha : ∀ c ∈ a, isBlank c = true)
    (hb : ∀ c ∈ b, isBlank c = true) (cs : List Char) : words (a ++ (cs ++ b)) = words cs := by
  have hright : words (cs ++ b) = words cs := by
    cases b with
    | nil => rw [List.append_nil]
    | cons c b =>
      have hnone : words b = [] := (words_eq_nil_iff b).mpr (List.forall_mem_cons.mp hb).2
      rw [words_append_cons (hb c List.mem_cons_self), hnone, List.append_nil]
  induction a with
  | nil => exact hright
  | cons c a ih =>
    have hblank := List.forall_mem_cons.mp ha
    exact (words_append_cons hblank.1 [] (a ++ (cs ++ b))).trans (ih hblank.2)

/-- Trimming a text does not change its words. -/
theorem wordsOf_trimmed (s : String) : wordsOf (trimmed s) = wordsOf s := by
  obtain ⟨a, b, ha, hb, hs⟩ := exists_eq_append_trim s.toList
  have hwords : words s.toList = words (trim s.toList) :=
    (congrArg words hs).trans (words_of_blank_around ha hb _)
  rw [wordsOf, wordsOf, trimmed, String.toList_ofList, hwords]

/-- Blanks alone are no filled lines. -/
theorem filled_of_blank {lines : List (List Char)}
    (h : ∀ line ∈ lines, ∀ c ∈ line, isBlank c = true) : filled lines = [] := by
  rw [filled, List.filter_eq_nil_iff]
  intro line hline
  obtain ⟨raw, hraw, rfl⟩ := List.mem_map.mp hline
  rw [trim_of_blank (h raw hraw)]
  exact Bool.false_ne_true

/-! ### Pieces -/

variable {p q : Char → Bool}

theorem pieces_ne_nil (cs : List Char) : pieces p cs ≠ [] := by
  rw [pieces_eq_splitOnP]
  exact List.splitOnP_ne_nil p cs

/-- A place to cut ends a piece before it begins. -/
theorem pieces_cons_of_cut {c : Char} (hc : p c = true) (cs : List Char) :
    pieces p (c :: cs) = [] :: pieces p cs := by
  obtain ⟨w, rest, hw⟩ := List.exists_cons_of_ne_nil (pieces_ne_nil (p := p) cs)
  simp only [pieces, hw, hc, ite_true]

/-- Any other character belongs to the piece it stands in front of. -/
theorem pieces_cons_of_not_cut {c : Char} (hc : p c = false) {cs w : List Char}
    {rest : List (List Char)} (hw : pieces p cs = w :: rest) :
    pieces p (c :: cs) = (c :: w) :: rest := by
  simp only [pieces, hw, hc, Bool.false_eq_true, ite_false]

/-- Pieces have a last one. -/
theorem exists_eq_append_last (cs : List Char) :
    ∃ before last, pieces p cs = before ++ [last] :=
  ⟨_, _, (List.dropLast_concat_getLast (pieces_ne_nil cs)).symm⟩

/-- What has no place to cut is one piece. -/
theorem pieces_of_forall_not {cs : List Char} (h : ∀ c ∈ cs, p c = false) :
    pieces p cs = [cs] := by
  rw [pieces_eq_splitOnP, List.splitOnP_eq_singleton h]

/-- What stands in front of the first place to cut is a piece of its own. -/
theorem pieces_cut {piece : List Char} {b : Char} (hb : p b = true) (h : ∀ c ∈ piece, p c = false)
    (rest : List Char) : pieces p (piece ++ b :: rest) = piece :: pieces p rest := by
  rw [pieces_append_cons hb, pieces_of_forall_not h, List.singleton_append]

/-- A line before a line feed is a piece of its own. -/
theorem pieces_line {line : List Char} (h : '\n' ∉ line) (rest : List Char) :
    pieces (· == '\n') (line ++ '\n' :: rest) = line :: pieces (· == '\n') rest := by
  refine pieces_cut (by rfl) (fun c hc => beq_eq_false_iff_ne.mpr ?_) rest
  rintro rfl
  exact h hc

/-- A text that is one word. -/
structure IsWord (s : String) : Prop where
  /-- It is not empty. -/
  ne_empty : s ≠ ""
  /-- It holds no blank. -/
  not_blank : ∀ c ∈ s.toList, isBlank c = false

/-- A text is found to be a word character by character. -/
theorem isWord_of_all {s : String} (hne : s ≠ "")
    (h : (s.toList.all fun c => !isBlank c) = true) : IsWord s where
  ne_empty := hne
  not_blank c hc := by
    rw [← Bool.not_eq_true']
    exact List.all_eq_true.mp h c hc

/-- A word is cut into itself. -/
theorem IsWord.words_toList {s : String} (h : IsWord s) : words s.toList = [s.toList] := by
  have hfilled : s.toList ≠ [] := mt String.toList_eq_nil_iff.mp h.ne_empty
  rw [words, pieces_of_forall_not h.not_blank]
  refine List.filter_eq_self.mpr (List.forall_mem_singleton.mpr ?_)
  rwa [Bool.not_eq_true', List.isEmpty_eq_false_iff]

/-- A word is the only word of it. -/
theorem IsWord.wordsOf_eq {s : String} (h : IsWord s) : wordsOf s = [s] := by
  rw [wordsOf, h.words_toList, List.map_singleton, String.ofList_toList]

/-- A word holds no line feed. -/
theorem IsWord.lineFeed_not_mem {s : String} (h : IsWord s) : '\n' ∉ s.toList :=
  fun hfeed => Bool.false_ne_true (h.not_blank '\n' hfeed).symm

/-- Nothing is trimmed of a text that begins in front of a word and ends with it. -/
theorem IsWord.trim_append {s : String} (h : IsWord s) (first : Char)
    (hfirst : isBlank first = false) (cs : List Char) :
    trim (first :: cs ++ s.toList) = first :: cs ++ s.toList := by
  have hfilled : s.toList ≠ [] := mt String.toList_eq_nil_iff.mp h.ne_empty
  have hlast := h.not_blank _ (List.getLast_mem hfilled)
  have hends := trim_between hfirst hlast (cs ++ s.toList.dropLast)
  rwa [List.append_assoc, List.dropLast_concat_getLast hfilled] at hends

/-- Pieces are made of what is cut, without the places to cut. -/
theorem mem_of_mem_pieces {cs w : List Char} (hw : w ∈ pieces p cs) {c : Char} (hc : c ∈ w) :
    c ∈ cs ∧ p c = false := by
  induction cs generalizing w with
  | nil =>
    rw [pieces, List.mem_singleton] at hw
    rw [hw] at hc
    exact absurd hc List.not_mem_nil
  | cons d cs ih =>
    obtain ⟨v, rest, hv⟩ := List.exists_cons_of_ne_nil (pieces_ne_nil (p := p) cs)
    cases hd : p d with
    | true =>
      rw [pieces_cons_of_cut hd] at hw
      rcases List.mem_cons.mp hw with rfl | hw
      · exact absurd hc List.not_mem_nil
      · exact (ih hw hc).imp_left (List.mem_cons_of_mem d)
    | false =>
      rw [hv] at ih
      rw [pieces_cons_of_not_cut hd hv] at hw
      rcases List.mem_cons.mp hw with rfl | hw
      · rcases List.mem_cons.mp hc with rfl | hc
        · exact ⟨List.mem_cons_self, hd⟩
        · exact (ih List.mem_cons_self hc).imp_left (List.mem_cons_of_mem d)
      · exact (ih (List.mem_cons_of_mem v hw) hc).imp_left (List.mem_cons_of_mem d)

/-- Every character that is no place to cut is in a piece. -/
theorem exists_mem_pieces {cs : List Char} {c : Char} (h : c ∈ cs) (hc : p c = false) :
    ∃ w ∈ pieces p cs, c ∈ w := by
  induction cs with
  | nil => exact absurd h List.not_mem_nil
  | cons d cs ih =>
    obtain ⟨v, rest, hv⟩ := List.exists_cons_of_ne_nil (pieces_ne_nil (p := p) cs)
    cases hd : p d with
    | true =>
      rw [pieces_cons_of_cut hd]
      rcases List.mem_cons.mp h with rfl | h
      · rw [hc] at hd
        exact absurd hd Bool.false_ne_true
      · obtain ⟨w, hw, hmem⟩ := ih h
        exact ⟨w, List.mem_cons_of_mem _ hw, hmem⟩
    | false =>
      rw [pieces_cons_of_not_cut hd hv]
      rcases List.mem_cons.mp h with rfl | h
      · exact ⟨_, List.mem_cons_self, List.mem_cons_self⟩
      · obtain ⟨w, hw, hmem⟩ := ih h
        rw [hv] at hw
        rcases List.mem_cons.mp hw with rfl | hw
        · exact ⟨_, List.mem_cons_self, List.mem_cons_of_mem d hmem⟩
        · exact ⟨w, List.mem_cons_of_mem _ hw, hmem⟩

/-- Where two texts meet, the last piece of the first and the first piece of the second are one. -/
theorem pieces_append {a b last first : List Char} {before after : List (List Char)}
    (ha : pieces p a = before ++ [last]) (hb : pieces p b = first :: after) :
    pieces p (a ++ b) = before ++ (last ++ first) :: after := by
  induction a generalizing before last with
  | nil =>
    have hsingle := List.append_eq_singleton_iff.mp ha.symm
    rcases hsingle with ⟨rfl, hlast⟩ | ⟨_, hnil⟩
    · obtain rfl := List.singleton_inj.mp hlast
      exact hb
    · exact absurd hnil (List.cons_ne_nil _ _)
  | cons c a ih =>
    obtain ⟨w, rest, hw⟩ := List.exists_cons_of_ne_nil (pieces_ne_nil (p := p) a)
    rw [List.cons_append]
    cases hc : p c with
    | true =>
      rw [pieces_cons_of_cut hc] at ha ⊢
      cases before with
      | nil =>
        rw [hw] at ha
        exact absurd (List.cons.inj ha).2 (List.cons_ne_nil w rest)
      | cons u before =>
        obtain ⟨rfl, hrest⟩ := List.cons.inj ha
        rw [ih hrest, List.cons_append]
    | false =>
      rw [pieces_cons_of_not_cut hc hw] at ha
      cases before with
      | nil =>
        obtain ⟨rfl, rfl⟩ := List.cons.inj ha
        have hw' : pieces p a = [] ++ [w] := hw
        exact pieces_cons_of_not_cut hc (ih hw')
      | cons u before =>
        obtain ⟨rfl, rfl⟩ := List.cons.inj ha
        have hw' : pieces p a = (w :: before) ++ [last] := hw
        exact pieces_cons_of_not_cut hc (ih hw')

/-- Blanks around a text do not change its filled lines. -/
theorem filled_pieces_of_blank_around {a b : List Char} (ha : ∀ c ∈ a, isBlank c = true)
    (hb : ∀ c ∈ b, isBlank c = true) (cs : List Char) :
    filled (pieces p (a ++ (cs ++ b))) = filled (pieces p cs) := by
  obtain ⟨beforeA, lastA, hA⟩ := exists_eq_append_last (p := p) a
  obtain ⟨before, last, hcs⟩ := exists_eq_append_last (p := p) cs
  obtain ⟨firstB, afterB, hB⟩ := List.exists_cons_of_ne_nil (pieces_ne_nil (p := p) b)
  have hright : filled (pieces p (cs ++ b)) = filled (pieces p cs) := by
    have hfirst : ∀ c ∈ firstB, isBlank c = true := by
      intro c hc
      exact hb c (mem_of_mem_pieces (hB ▸ List.mem_cons_self) hc).1
    have hafter : ∀ w ∈ afterB, ∀ c ∈ w, isBlank c = true := by
      intro w hw c hc
      exact hb c (mem_of_mem_pieces (hB ▸ List.mem_cons_of_mem _ hw) hc).1
    rw [pieces_append hcs hB, hcs, filled_append, filled_append, filled_cons,
      filled_of_blank hafter, List.append_nil,
      filled_singleton_congr (trim_append_right hfirst last)]
  obtain ⟨first, after, hmid⟩ := List.exists_cons_of_ne_nil (pieces_ne_nil (p := p) (cs ++ b))
  have hbefore : ∀ w ∈ beforeA, ∀ c ∈ w, isBlank c = true := by
    intro w hw c hc
    exact ha c (mem_of_mem_pieces (hA ▸ List.mem_append_left _ hw) hc).1
  have hlast : ∀ c ∈ lastA, isBlank c = true := by
    intro c hc
    exact ha c (mem_of_mem_pieces (hA ▸ List.mem_append_right _ (List.mem_singleton_self _)) hc).1
  rw [pieces_append hA hmid, filled_append, filled_of_blank hbefore, List.nil_append, filled_cons,
    filled_singleton_congr (trim_append_left hlast first), ← filled_cons, ← hmid, hright]

/-- Trimming a text does not change its filled lines. -/
theorem filled_pieces_trim (cs : List Char) :
    filled (pieces p (trim cs)) = filled (pieces p cs) := by
  obtain ⟨a, b, ha, hb, hcs⟩ := exists_eq_append_trim cs
  have haround := filled_pieces_of_blank_around (p := p) ha hb (trim cs)
  rwa [← hcs, eq_comm] at haround

/-- A text is at most one filled line if no place to cut is left inside it after trimming. -/
theorem filled_pieces_of_trim {cs : List Char} (h : ∀ c ∈ trim cs, p c = false) :
    filled (pieces p cs) = filled [cs] := by
  rw [← filled_pieces_trim, pieces_of_forall_not h]
  exact filled_singleton_congr (trim_trim cs)

/-- Cutting at more places cuts each piece further. -/
theorem pieces_eq_flatMap (hpq : ∀ c, p c = true → q c = true) (cs : List Char) :
    pieces q cs = (pieces p cs).flatMap (pieces q) := by
  induction cs with
  | nil => rfl
  | cons c cs ih =>
    obtain ⟨w, rest, hw⟩ := List.exists_cons_of_ne_nil (pieces_ne_nil (p := p) cs)
    obtain ⟨v, more, hv⟩ := List.exists_cons_of_ne_nil (pieces_ne_nil (p := q) w)
    have ih' : pieces q cs = v :: (more ++ rest.flatMap (pieces q)) := by
      rw [ih, hw, List.flatMap_cons, hv, List.cons_append]
    cases hp : p c with
    | true =>
      rw [pieces_cons_of_cut hp, pieces_cons_of_cut (hpq c hp), ih, List.flatMap_cons]
      rfl
    | false =>
      rw [pieces_cons_of_not_cut hp hw, List.flatMap_cons]
      cases hq : q c with
      | true =>
        rw [pieces_cons_of_cut hq, pieces_cons_of_cut hq, ih', hv, List.cons_append,
          List.cons_append]
      | false => rw [pieces_cons_of_not_cut hq ih', pieces_cons_of_not_cut hq hv, List.cons_append]

/-! ### Two notions of line -/

/-- A line feed is a line boundary. -/
theorem isLineBoundary_of_lineFeed {c : Char} (h : (c == '\n') = true) :
    isLineBoundary c = true := by
  rw [beq_iff_eq.mp h]
  rfl

/-- A return and the line feed behind it end a line together. -/
theorem lines_cons_return (cs : List Char) : lines ('\r' :: '\n' :: cs) = [] :: lines cs := rfl

/-- Any other boundary ends a line by itself. -/
theorem lines_cons {c : Char} {cs : List Char}
    (h : ∀ rest, c = '\r' → cs = '\n' :: rest → False) :
    lines (c :: cs) =
      if isLineBoundary c = true then [] :: lines cs
      else
        match lines cs with
        | [] => [[c]]
        | line :: rest => (c :: line) :: rest := by
  rw [lines.eq_def]
  split
  · contradiction
  · rename_i rest hpair
    obtain ⟨rfl, rfl⟩ := List.cons.inj hpair
    exact (h rest rfl rfl).elim
  · rename_i hcons
    obtain ⟨rfl, rfl⟩ := List.cons.inj hcons
    rfl

/-- Lines and pieces that begin alike and go on with the same filled lines; there may be no line for
an empty piece. -/
private def BeginAlike (ls ps : List (List Char)) : Prop :=
  ls = [] ∧ ps = [[]] ∨
    ∃ line rest after, ls = line :: rest ∧ ps = line :: after ∧ filled rest = filled after

private theorem BeginAlike.filled_eq {ls ps : List (List Char)} (h : BeginAlike ls ps) :
    filled ls = filled ps := by
  rcases h with ⟨rfl, rfl⟩ | ⟨line, rest, after, rfl, rfl, hrest⟩
  · rfl
  · rw [filled_cons, hrest, ← filled_cons]

private theorem beginAlike_lines (cs : List Char) :
    BeginAlike (lines cs) (pieces isLineBoundary cs) := by
  induction cs using lines.induct with
  | case1 => exact Or.inl ⟨rfl, rfl⟩
  | case2 cs ih =>
    -- A return and the line feed behind it are one boundary, but two places to cut.
    refine Or.inr ⟨[], lines cs, [] :: pieces isLineBoundary cs, rfl, ?_, ?_⟩
    · rw [pieces_cons_of_cut rfl, pieces_cons_of_cut rfl]
    · rw [ih.filled_eq]
      rfl
  | case3 c cs hreturn hc ih =>
    have hlines : lines (c :: cs) = [] :: lines cs := by
      rw [lines_cons hreturn, if_pos hc]
    exact Or.inr ⟨[], lines cs, pieces isLineBoundary cs, hlines, pieces_cons_of_cut hc cs,
      ih.filled_eq⟩
  | case4 c cs hreturn hc hnil ih =>
    have hlines : lines (c :: cs) = [[c]] := by
      rw [lines_cons hreturn, if_neg hc, hnil]
    have hpieces : pieces isLineBoundary cs = [[]] := by
      rcases ih with ⟨_, h⟩ | ⟨line, rest, _, h, _⟩
      · exact h
      · rw [hnil] at h
        exact absurd h.symm (List.cons_ne_nil line rest)
    exact Or.inr ⟨[c], [], [], hlines,
      pieces_cons_of_not_cut (Bool.eq_false_iff.mpr hc) hpieces, rfl⟩
  | case5 c cs hreturn hc line rest hl ih =>
    have hlines : lines (c :: cs) = (c :: line) :: rest := by
      rw [lines_cons hreturn, if_neg hc, hl]
    rcases ih with ⟨h, _⟩ | ⟨line', rest', after, h, hpieces, hrest⟩
    · rw [hl] at h
      exact absurd h (List.cons_ne_nil line rest)
    · obtain ⟨rfl, rfl⟩ := List.cons.inj (hl.symm.trans h)
      exact Or.inr ⟨c :: line, rest, after, hlines,
        pieces_cons_of_not_cut (Bool.eq_false_iff.mpr hc) hpieces, hrest⟩

/-- The lines for display have the filled lines of the pieces between line boundaries. -/
theorem filled_lines (cs : List Char) : filled (lines cs) = filled (pieces isLineBoundary cs) :=
  (beginAlike_lines cs).filled_eq

/-- Both notions of line give the same filled lines of a text whose lines, once trimmed, hold no
line boundary. -/
theorem filled_lines_eq_filled_pieces {cs : List Char}
    (h : ∀ line ∈ pieces (· == '\n') cs, ∀ c ∈ trim line, isLineBoundary c = false) :
    filled (lines cs) = filled (pieces (· == '\n') cs) := by
  rw [filled_lines, pieces_eq_flatMap (fun _ => isLineBoundary_of_lineFeed)]
  generalize pieces (· == '\n') cs = rows at h
  induction rows with
  | nil => rfl
  | cons row rows ih =>
    have hrow := filled_pieces_of_trim (h row List.mem_cons_self)
    have hrows := ih fun line hline => h line (List.mem_cons_of_mem row hline)
    rw [List.flatMap_cons, filled_append, hrow, hrows, ← filled_cons]

/-- The lines for display hold no line boundary. -/
theorem not_boundary_of_mem_lines {cs line : List Char} (h : line ∈ lines cs) :
    ∀ c ∈ line, isLineBoundary c = false := by
  induction cs using lines.induct generalizing line with
  | case1 => exact absurd h List.not_mem_nil
  | case2 cs ih =>
    rw [lines_cons_return] at h
    rcases List.mem_cons.mp h with rfl | h
    · exact List.forall_mem_nil _
    · exact ih h
  | case3 c cs hreturn hc ih =>
    rw [lines_cons hreturn, if_pos hc] at h
    rcases List.mem_cons.mp h with rfl | h
    · exact List.forall_mem_nil _
    · exact ih h
  | case4 c cs hreturn hc hnil ih =>
    rw [lines_cons hreturn, if_neg hc, hnil, List.mem_singleton] at h
    rw [h, List.forall_mem_singleton]
    exact Bool.eq_false_iff.mpr hc
  | case5 c cs hreturn hc first rest hl ih =>
    rw [lines_cons hreturn, if_neg hc, hl] at h
    rw [hl] at ih
    rcases List.mem_cons.mp h with rfl | h
    · exact List.forall_mem_cons.mpr ⟨Bool.eq_false_iff.mpr hc, ih List.mem_cons_self⟩
    · exact ih (List.mem_cons_of_mem first h)

/-- The lines for display hold no line feed. -/
theorem not_mem_of_mem_lines {cs line : List Char} (h : line ∈ lines cs) : '\n' ∉ line :=
  fun hfeed => Bool.false_ne_true (not_boundary_of_mem_lines h '\n' hfeed).symm

/-- Both notions of line give the same lines of a text that has no other line boundary than line
feeds and does not end in one. -/
theorem lines_eq_pieces {cs : List Char} (h : ∀ c ∈ cs, isLineBoundary c = true → c = '\n')
    {last : Char} (hlast : cs.getLast? = some last) (hne : last ≠ '\n') :
    lines cs = pieces (· == '\n') cs := by
  induction cs with
  | nil =>
    rw [List.getLast?_nil] at hlast
    cases hlast
  | cons c cs ih =>
    have hreturn : ∀ rest, c = '\r' → cs = '\n' :: rest → False := by
      rintro rest rfl -
      exact absurd (h '\r' List.mem_cons_self rfl) (by decide)
    have hrest := ih fun d hd => h d (List.mem_cons_of_mem c hd)
    rw [lines_cons hreturn]
    cases cs with
    | nil =>
      obtain rfl : c = last := Option.some.inj hlast
      have hc : isLineBoundary c = false := Bool.eq_false_iff.mpr fun hc =>
        hne (h c List.mem_cons_self hc)
      have hcut : ∀ d ∈ [c], (d == '\n') = false := fun d hd => by
        rw [List.mem_singleton.mp hd, beq_eq_false_iff_ne]
        exact hne
      rw [hc, if_neg Bool.false_ne_true, pieces_of_forall_not hcut]
      rfl
    | cons d cs =>
      have hmore := hrest hlast
      cases hc : isLineBoundary c with
      | true =>
        obtain rfl := h c List.mem_cons_self hc
        rw [if_pos rfl, hmore, pieces_cons_of_cut (p := (· == '\n')) (c := '\n') rfl]
      | false =>
        have hcut : (c == '\n') = false := by
          rw [beq_eq_false_iff_ne]
          rintro rfl
          exact Bool.false_ne_true hc.symm
        obtain ⟨w, rest, hw⟩ := List.exists_cons_of_ne_nil
          (pieces_ne_nil (p := (· == '\n')) (d :: cs))
        rw [if_neg Bool.false_ne_true, hmore, hw,
          pieces_cons_of_not_cut (p := (· == '\n')) hcut hw]

/-- Texts without some character are found again between the characters that join them. -/
theorem pieces_join {c : Char} {separator : String} (hseparator : separator.toList = [c])
    {ls : List (List Char)} (hne : ls ≠ []) (h : ∀ line ∈ ls, c ∉ line) :
    pieces (· == c) (join separator (ls.map String.ofList)).toList = ls := by
  have hlines : (ls.map String.ofList).map String.toList = ls := by
    rw [List.map_map]
    refine (List.map_congr_left fun line _ => ?_).trans (List.map_id ls)
    exact String.toList_ofList
  have hsplit : pieces (· == c) ([c].intercalate ls) = ([c].intercalate ls).splitOn c :=
    pieces_eq_splitOnP _
  rw [join, String.toList_intercalate, hlines, hseparator, hsplit,
    List.splitOn_intercalate c h hne]

end LeafSwitch.Text
