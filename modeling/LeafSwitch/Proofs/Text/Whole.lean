import LeafSwitch.Proofs.Text.Lines

/-!
# Whole texts

A text from outside holds no half of a pair. Its codes are its characters, and the text of these
codes is the text again. What is cut out of a whole text, by length or by blanks, is whole.
-/

namespace LeafSwitch.Text

/-- A text that stands for one from outside. -/
def Whole (s : String) : Prop :=
  ∃ t, received t = s

/-- A code that is a character. -/
def IsWhole (n : Nat) : Prop :=
  n < 0x110000 ∧ isHalf n = false

theorem isHigh_iff {n : Nat} : isHigh n = true ↔ 0xD800 ≤ n ∧ n < 0xDC00 := by
  rw [isHigh, Bool.and_eq_true, decide_eq_true_eq, decide_eq_true_eq]

theorem isLow_iff {n : Nat} : isLow n = true ↔ 0xDC00 ≤ n ∧ n < 0xE000 := by
  rw [isLow, Bool.and_eq_true, decide_eq_true_eq, decide_eq_true_eq]

theorem isLow_eq_false {n : Nat} (h : n < 0xDC00 ∨ 0xE000 ≤ n) : isLow n = false := by
  refine Bool.eq_false_iff.mpr fun hlow => ?_
  have hbounds := isLow_iff.mp hlow
  omega

theorem isHalf_iff {n : Nat} : isHalf n = true ↔ 0xD800 ≤ n ∧ n < 0xE000 := by
  rw [isHalf, Bool.or_eq_true, isHigh_iff, isLow_iff]
  omega

/-- The code of a character is no half. -/
theorem isWhole_toNat (c : Char) : IsWhole c.toNat := by
  have hvalid : c.toNat < 0xD800 ∨ 0xDFFF < c.toNat ∧ c.toNat < 0x110000 := c.valid
  refine ⟨by omega, Bool.eq_false_iff.mpr fun hhalf => ?_⟩
  have hbounds := isHalf_iff.mp hhalf
  omega

/-- Codes of kept characters are no larger than those of characters. -/
theorem codes_lt {cs : List Char} : ∀ n ∈ codes cs, n < 0x110000 := by
  have hchar : ∀ c : Char, c.toNat < 0x110000 := fun c => (isWhole_toNat c).1
  fun_induction codes cs with
  | case1 => exact fun n hn => absurd hn List.not_mem_nil
  | case2 c =>
    intro n hn
    obtain rfl := List.mem_singleton.mp hn
    exact hchar c
  | case3 d rest ih =>
    intro n hn
    rcases List.mem_cons.mp hn with heq | hn
    · have hd := hchar d
      rw [heq, markedCode]
      split
      · omega
      · exact hd
    · exact ih n hn
  | case4 c d rest _ ih =>
    intro n hn
    rcases List.mem_cons.mp hn with rfl | hn
    · exact hchar c
    · exact ih n hn

/-- The codes of a text from outside are its characters. -/
theorem codesOf_received (t : String) : codesOf (received t) = t.toList.map Char.toNat := by
  refine codesOf_ofCodes fun n hn => ?_
  obtain ⟨c, _, rfl⟩ := List.mem_map.mp hn
  exact (isWhole_toNat c).1

namespace Whole

variable {s : String}

/-- The codes of a whole text are characters. -/
theorem isWhole (h : Whole s) : ∀ n ∈ codesOf s, IsWhole n := by
  obtain ⟨t, rfl⟩ := h
  rw [codesOf_received]
  intro n hn
  obtain ⟨c, _, rfl⟩ := List.mem_map.mp hn
  exact isWhole_toNat c

/-- The text of the codes of a whole text is this text. -/
theorem ofCodes_codesOf (h : Whole s) : ofCodes (codesOf s) = s := by
  obtain ⟨t, rfl⟩ := h
  rw [codesOf_received]
  rfl

end Whole

/-- The text of characters is whole. -/
theorem whole_ofCodes {ns : List Nat} (h : ∀ n ∈ ns, IsWhole n) : Whole (ofCodes ns) := by
  refine ⟨String.ofList (ns.map Char.ofNat), ?_⟩
  have hsame : (ns.map Char.ofNat).map Char.toNat = ns := by
    rw [List.map_map]
    refine (List.map_congr_left fun n hn => ?_).trans (List.map_id ns)
    exact toNat_ofNat (h n hn).1 (h n hn).2
  rw [received, ofChars, String.toList_ofList, hsame]

/-- A whole text up to a width is whole. -/
theorem Whole.cutTo {s : String} (h : Whole s) (width : Nat) : Whole (cutTo width s) :=
  whole_ofCodes fun n hn => h.isWhole n (List.mem_of_mem_take hn)

/-- A character other than the mark is kept as itself. -/
theorem kept_toNat {c : Char} (h : c ≠ mark) : kept c.toNat = [c] := by
  have hne : c.toNat ≠ markCode := by
    intro hmark
    apply h
    rw [← Char.ofNat_toNat c, hmark]
    rfl
  rw [kept, (isWhole_toNat c).2, if_neg Bool.false_ne_true, if_neg hne, Char.ofNat_toNat]

/-- A text without the mark is as it is outside. -/
theorem received_eq_self {s : String} (h : mark ∉ s.toList) : received s = s := by
  have hkept : (s.toList.map Char.toNat).flatMap kept = s.toList := by
    rw [List.flatMap_map]
    generalize s.toList = cs at h
    induction cs with
    | nil => rfl
    | cons c cs ih =>
      have hc : c ≠ mark := fun hc => h (hc ▸ List.mem_cons_self)
      rw [List.flatMap_cons, kept_toNat hc, ih fun hcs => h (List.mem_cons_of_mem c hcs)]
      rfl
  rw [received, ofChars, ofCodes, hkept, String.ofList_toList]

/-- The codes of a text without the mark are its characters. -/
theorem codesOf_of_mark_not_mem {s : String} (h : mark ∉ s.toList) :
    codesOf s = s.toList.map Char.toNat := by
  rw [← codesOf_received, received_eq_self h]

/-- A text without the mark is whole. -/
theorem whole_of_mark_not_mem {s : String} (h : mark ∉ s.toList) : Whole s :=
  ⟨s, received_eq_self h⟩

/-- Characters take a byte each at least. -/
theorem length_le_utf8ByteSize (cs : List Char) :
    cs.length ≤ (String.ofList cs).utf8ByteSize := by
  induction cs with
  | nil => exact Nat.zero_le _
  | cons c cs ih =>
    have hcons : String.ofList (c :: cs) = String.singleton c ++ String.ofList cs := by
      rw [String.singleton_eq_ofList, ← String.ofList_append]
      rfl
    have hpos : 0 < c.utf8Size := c.utf8Size_pos
    rw [hcons, String.utf8ByteSize_append, String.utf8ByteSize_singleton, List.length_cons]
    omega

/-- A text takes a byte for each of its characters at least where it is sent. -/
theorem length_le_utf8ByteSize_sent {s : String} (h : mark ∉ s.toList) :
    s.toList.length ≤ (sent s).utf8ByteSize := by
  have hlength : (charsOf s).length = s.toList.length := by
    rw [charsOf, List.length_map, codesOf_of_mark_not_mem h, List.length_map]
  rw [← hlength, sent]
  exact length_le_utf8ByteSize _

/-- A text in ASCII. -/
def Ascii (s : String) : Prop :=
  ∀ c ∈ s.toList, c.toNat < 0x80

instance (s : String) : Decidable (Ascii s) :=
  List.decidableBAll (fun c : Char => c.toNat < 0x80) s.toList

namespace Ascii

variable {a b s : String}

theorem append (ha : Ascii a) (hb : Ascii b) : Ascii (a ++ b) := by
  intro c hc
  rw [String.toList_append] at hc
  exact (List.mem_append.mp hc).elim (ha c) (hb c)

/-- A text in ASCII does not hold the mark. -/
theorem mark_not_mem (h : Ascii s) : mark ∉ s.toList := by
  intro hmark
  have hlt := h mark hmark
  have hcode : mark.toNat = 0xDFFFF := by decide
  omega

/-- A text in ASCII is whole. -/
theorem whole (h : Ascii s) : Whole s :=
  whole_of_mark_not_mem h.mark_not_mem

end Ascii

/-! ### Words -/

private theorem pieces_flatMap_kept {p : Char → Bool} (hp : p mark = false) (cs : List Char) :
    pieces p (cs.flatMap fun c => kept c.toNat) =
      (pieces p cs).map (·.flatMap fun c => kept c.toNat) := by
  induction cs with
  | nil => rfl
  | cons c cs ih =>
    obtain ⟨w, rest, hw⟩ := List.exists_cons_of_ne_nil (pieces_ne_nil (p := p) cs)
    rw [hw, List.map_cons] at ih
    rw [List.flatMap_cons]
    by_cases hmark : c = mark
    · have hkept : kept c.toNat = [mark, mark] := by
        rw [hmark]
        decide
      have hc : p c = false := by
        rw [hmark]
        exact hp
      rw [pieces_cons_of_not_cut hc hw, List.map_cons, List.flatMap_cons, hkept]
      exact pieces_cons_of_not_cut hp (pieces_cons_of_not_cut hp ih)
    · rw [kept_toNat hmark, List.singleton_append]
      cases hc : p c with
      | true =>
        rw [pieces_cons_of_cut hc, pieces_cons_of_cut hc, ih, hw]
        rfl
      | false =>
        rw [pieces_cons_of_not_cut hc ih, pieces_cons_of_not_cut hc hw, List.map_cons,
          List.flatMap_cons, kept_toNat hmark]
        rfl

/-- The words of a whole text are whole, since the mark is not blank. -/
theorem Whole.of_mem_wordsOf {s w : String} (h : Whole s) (hw : w ∈ wordsOf s) : Whole w := by
  obtain ⟨t, rfl⟩ := h
  have hchars : (received t).toList = t.toList.flatMap fun c => kept c.toNat := by
    rw [received, ofChars, ofCodes, String.toList_ofList, List.flatMap_map]
  have hblank : isBlank mark = false := by decide
  obtain ⟨cs, hcs, rfl⟩ := List.mem_map.mp hw
  have hpiece := (List.mem_filter.mp hcs).1
  rw [hchars, pieces_flatMap_kept hblank] at hpiece
  obtain ⟨v, _, rfl⟩ := List.mem_map.mp hpiece
  refine ⟨String.ofList v, ?_⟩
  rw [received, ofChars, ofCodes, String.toList_ofList, List.flatMap_map]

end LeafSwitch.Text
