import LeafSwitch.Proofs.Text.Whole

/-!
# Rows and columns

Texts joined by line feeds have the lines of each of them, one after another. A column is as many
codes wide as it says: a text is cut or filled up to that width. Codes of texts come one after
another too, unless a text ends in a mark that nothing is kept behind.
-/

namespace LeafSwitch.Text

/-! ### Rows -/

/-- There is one piece more than there are places to cut. -/
theorem length_pieces {p : Char → Bool} (cs : List Char) :
    (pieces p cs).length = cs.countP p + 1 := by
  induction cs with
  | nil => rfl
  | cons c cs ih =>
    obtain ⟨w, rest, hw⟩ := List.exists_cons_of_ne_nil (pieces_ne_nil (p := p) cs)
    cases hc : p c with
    | true => rw [pieces_cons_of_cut hc, List.length_cons, ih, List.countP_cons_of_pos hc]
    | false =>
      rw [pieces_cons_of_not_cut hc hw, List.length_cons,
        List.countP_cons_of_neg (Bool.eq_false_iff.mp hc), ← ih, hw, List.length_cons]

/-- Texts joined by a character are cut there into the pieces of each of them. -/
theorem pieces_join_eq_flatMap {c : Char} {separator : String} (hseparator : separator.toList = [c])
    {texts : List String} (hne : texts ≠ []) :
    pieces (· == c) (join separator texts).toList =
      texts.flatMap fun text => pieces (· == c) text.toList := by
  rw [join, String.toList_intercalate, hseparator]
  induction texts with
  | nil => exact absurd rfl hne
  | cons text rest ih =>
    cases rest with
    | nil =>
      rw [List.map_singleton, List.intercalate_singleton, List.flatMap_singleton]
    | cons next rest =>
      have hcons : (text :: next :: rest).map String.toList =
          text.toList :: next.toList :: rest.map String.toList := rfl
      rw [hcons, List.intercalate_cons_cons, List.append_assoc, List.singleton_append,
        pieces_append_cons (by exact beq_self_eq_true c), List.flatMap_cons,
        ← ih (List.cons_ne_nil next rest)]
      rfl

/-! ### Columns -/

/-- A text that is made of codes. -/
def MadeOfCodes (s : String) : Prop :=
  ofCodes (codesOf s) = s

variable {a b s : String}

/-- A whole text is made of its codes. -/
theorem Whole.madeOfCodes (h : Whole s) : MadeOfCodes s :=
  h.ofCodes_codesOf

private theorem codes_flatMap_kept_append {ns : List Nat} (h : ∀ n ∈ ns, n < 0x110000)
    (rest : List Char) : codes (ns.flatMap kept ++ rest) = ns ++ codes rest := by
  induction ns with
  | nil => rfl
  | cons n ns ih =>
    rw [List.flatMap_cons, List.append_assoc, codes_kept_append (h n List.mem_cons_self),
      ih fun m hm => h m (List.mem_cons_of_mem n hm), List.cons_append]

/-- Behind a text that is made of codes the codes go on. -/
theorem MadeOfCodes.codesOf_append (h : MadeOfCodes a) (b : String) :
    codesOf (a ++ b) = codesOf a ++ codesOf b := by
  have hkept : a.toList = (codesOf a).flatMap kept := by
    rw [← String.toList_ofList (l := (codesOf a).flatMap kept)]
    exact congrArg String.toList h.symm
  have hbound : ∀ n ∈ codesOf a, n < 0x110000 := codes_lt
  rw [codesOf, String.toList_append, hkept, codes_flatMap_kept_append hbound]
  rfl

/-- What is made of texts that are made of codes is made of codes. -/
theorem MadeOfCodes.append (ha : MadeOfCodes a) (hb : MadeOfCodes b) : MadeOfCodes (a ++ b) := by
  rw [MadeOfCodes, ha.codesOf_append, ofCodes, List.flatMap_append, String.ofList_append]
  exact congrArg₂ (· ++ ·) ha hb

/-- A text in ASCII is made of codes. -/
theorem Ascii.madeOfCodes (h : Ascii s) : MadeOfCodes s :=
  h.whole.madeOfCodes

/-- The codes of a text that is cut or filled with spaces up to a width. -/
def column (width : Nat) (s : String) : List Nat :=
  (codesOf s ++ List.replicate width 0x20).take width

/-- A column is as wide as it says. -/
theorem length_column (width : Nat) (s : String) : (column width s).length = width := by
  rw [column, List.length_take, List.length_append, List.length_replicate]
  omega

theorem ascii_spaces (n : Nat) : Ascii (spaces n) := by
  intro c hc
  rw [spaces, String.toList_ofList] at hc
  rw [(List.mem_replicate.mp hc).2]
  decide

/-- Spaces have the code of a space each. -/
theorem codesOf_spaces (n : Nat) : codesOf (spaces n) = List.replicate n 0x20 := by
  rw [codesOf_of_mark_not_mem (ascii_spaces n).mark_not_mem, spaces, String.toList_ofList,
    List.map_replicate]
  rfl

/-- A text filled up to a width has its codes and those of the spaces. -/
theorem codesOf_padRight (h : MadeOfCodes s) (width : Nat) :
    codesOf (padRight width s) = codesOf s ++ List.replicate (width - size s) 0x20 := by
  rw [padRight, h.codesOf_append, codesOf_spaces]

/-- Filling a text up to a width keeps it made of codes. -/
theorem MadeOfCodes.padRight (h : MadeOfCodes s) (width : Nat) : MadeOfCodes (padRight width s) :=
  h.append (ascii_spaces _).madeOfCodes

/-- A text that is no wider than a column is filled up to its width. -/
theorem length_codesOf_padRight (h : MadeOfCodes s) {width : Nat} (hsize : size s ≤ width) :
    (codesOf (padRight width s)).length = width := by
  rw [codesOf_padRight h, List.length_append, List.length_replicate]
  exact Nat.add_sub_of_le hsize

/-- A text filled up to a width begins with the column. -/
theorem take_codesOf_padRight (h : MadeOfCodes s) (width : Nat) (rest : List Nat) :
    (codesOf (padRight width s) ++ rest).take width = column width s := by
  rcases Nat.le_total width (size s) with hwide | hnarrow
  · rw [codesOf_padRight h, column, List.append_assoc, List.take_append_of_le_length hwide,
      List.take_append_of_le_length hwide]
  · rw [List.take_left' (length_codesOf_padRight h hnarrow), codesOf_padRight h, column,
      List.take_append, List.take_of_length_le hnarrow, List.take_replicate,
      Nat.min_eq_left (Nat.sub_le ..)]
    rfl

/-- A text that is no wider than a column is the column when it is filled up. -/
theorem codesOf_padRight_eq_column (h : MadeOfCodes s) {width : Nat} (hsize : size s ≤ width) :
    codesOf (padRight width s) = column width s := by
  have htake := take_codesOf_padRight h width []
  rwa [List.append_nil, List.take_of_length_le (length_codesOf_padRight h hsize).le] at htake

end LeafSwitch.Text
