import LeafSwitch.Text.Layout

/-!
# Separated texts

A text is cut where a separator of several characters stands. The places are found from the left,
and none of them begins within another. Texts that do not hold the first character of the separator
are found again between the places where it has been put.
-/

namespace LeafSwitch.Text

/-- The parts of a text that lie between the places where a separator stands, where the first
characters of the text, so many of them, belong to such a place still. -/
def partsBehind (separator : List Char) : Nat → List Char → List (List Char)
  | _, [] => [[]]
  | covered + 1, _ :: cs => partsBehind separator covered cs
  | 0, c :: cs =>
    if separator.isPrefixOf (c :: cs) then
      [] :: partsBehind separator (separator.length - 1) cs
    else
      match partsBehind separator 0 cs with
      | [] => []
      | part :: rest => (c :: part) :: rest

/-- The parts of a string that lie between the places where a separator stands. -/
def partsOf (separator s : String) : List String :=
  (partsBehind separator.toList 0 s.toList).map String.ofList

variable {a : Char} {more part : List Char}

/-- What belongs to a place where the separator stands is passed over. -/
theorem partsBehind_covered (separator covered rest : List Char) :
    partsBehind separator covered.length (covered ++ rest) = partsBehind separator 0 rest := by
  induction covered with
  | nil => rfl
  | cons c covered ih => exact ih

/-- A separator ends a part before it begins. -/
theorem partsBehind_separator (a : Char) (more rest : List Char) :
    partsBehind (a :: more) 0 (a :: more ++ rest) = [] :: partsBehind (a :: more) 0 rest := by
  have hstands : (a :: more).isPrefixOf (a :: (more ++ rest)) = true := by
    simp [List.isPrefixOf_iff_prefix]
  rw [List.cons_append, partsBehind, if_pos hstands, List.length_cons, Nat.add_sub_cancel,
    partsBehind_covered]

/-- A character that the separator does not begin with belongs to the part it stands in front of. -/
theorem partsBehind_cons {c : Char} (hc : c ≠ a) {cs : List Char} {rest : List (List Char)}
    (h : partsBehind (a :: more) 0 cs = part :: rest) :
    partsBehind (a :: more) 0 (c :: cs) = (c :: part) :: rest := by
  have hnone : ¬ (a :: more).isPrefixOf (c :: cs) = true := by
    rw [List.isPrefixOf_iff_prefix, List.cons_prefix_cons]
    exact fun hprefix => hc hprefix.1.symm
  rw [partsBehind, if_neg hnone, h]

/-- What stands in front of a separator is a part of its own. -/
theorem partsBehind_append (hpart : a ∉ part) (rest : List Char) :
    partsBehind (a :: more) 0 (part ++ (a :: more ++ rest)) =
      part :: partsBehind (a :: more) 0 rest := by
  induction part with
  | nil => exact partsBehind_separator a more rest
  | cons c part ih =>
    obtain ⟨hc, hpart⟩ := not_or.mp (mt List.mem_cons.mpr hpart)
    exact partsBehind_cons (Ne.symm hc) (ih hpart)

/-- A text that does not hold the first character of the separator is one part. -/
theorem partsBehind_of_not_mem (hpart : a ∉ part) :
    partsBehind (a :: more) 0 part = [part] := by
  induction part with
  | nil => rfl
  | cons c part ih =>
    obtain ⟨hc, hpart⟩ := not_or.mp (mt List.mem_cons.mpr hpart)
    exact partsBehind_cons (Ne.symm hc) (ih hpart)

/-- Texts that are joined by a separator, and do not hold its first character, are its parts. -/
theorem partsOf_join {separator : String} (hseparator : separator.toList = a :: more)
    {texts : List String} (hne : texts ≠ []) (htexts : ∀ text ∈ texts, a ∉ text.toList) :
    partsOf separator (join separator texts) = texts := by
  have hparts : partsBehind (a :: more) 0
      ((a :: more).intercalate (texts.map String.toList)) = texts.map String.toList := by
    induction texts with
    | nil => exact absurd rfl hne
    | cons text rest ih =>
      obtain ⟨htext, hrest⟩ := List.forall_mem_cons.mp htexts
      cases rest with
      | nil =>
        rw [List.map_singleton, List.intercalate_singleton]
        exact partsBehind_of_not_mem htext
      | cons next rest =>
        have hmore := ih (List.cons_ne_nil next rest) hrest
        rw [List.map_cons, List.map_cons, List.intercalate_cons_cons, List.append_assoc,
          partsBehind_append htext]
        exact congrArg (text.toList :: ·) hmore
  rw [partsOf, join, String.toList_intercalate, hseparator, hparts, List.map_map]
  exact (List.map_congr_left fun text _ => String.ofList_toList).trans (List.map_id texts)

end LeafSwitch.Text
