import LeafSwitch.Text.Blank

/-!
# Trimming and words

Cutting a text at blanks and trimming it agree on what is blank: a text has no word exactly where
nothing is left of it after trimming. Cutting into pieces is the splitting of the list library.
-/

namespace LeafSwitch.Text

variable {α : Type} {p : α → Bool}

/-- Pieces are the parts into which the list library splits. -/
theorem pieces_eq_splitOnP (cs : List α) : pieces p cs = cs.splitOnP p := by
  induction cs with
  | nil => rfl
  | cons c cs ih =>
    rw [List.splitOnP_cons_eq_if_modifyHead, ← ih]
    cases h : pieces p cs with
    | nil => exact absurd (ih.symm.trans h) (List.splitOnP_ne_nil p cs)
    | cons piece rest => simp only [pieces, h, List.modifyHead_cons]

/-- The lines of a text are its parts between line feeds. -/
theorem pieces_lineFeed (cs : List Char) : pieces (· == '\n') cs = cs.splitOn '\n' :=
  pieces_eq_splitOnP cs

/-- The pieces of a text are those in front of a place to cut and those behind it. -/
theorem pieces_append_cons {b : α} (hb : p b = true) (before behind : List α) :
    pieces p (before ++ b :: behind) = pieces p before ++ pieces p behind := by
  rw [pieces_eq_splitOnP, pieces_eq_splitOnP, pieces_eq_splitOnP,
    List.splitOnP_append_cons before behind hb]

/-- All pieces are empty exactly where every member is a place to cut. -/
theorem pieces_all_nil (cs : List α) : (∀ w ∈ pieces p cs, w = []) ↔ ∀ c ∈ cs, p c = true := by
  induction cs with
  | nil => simp [pieces]
  | cons c cs ih =>
    obtain ⟨piece, rest, h⟩ := List.exists_cons_of_ne_nil (List.splitOnP_ne_nil p cs)
    rw [← pieces_eq_splitOnP] at h
    rw [h] at ih
    by_cases hc : p c = true
    · simp only [pieces, h, hc, ite_true, List.forall_mem_cons, ← ih, true_and]
    · simp [pieces, h, hc]

/-- A text has no word exactly where it is blank. -/
theorem words_eq_nil_iff (cs : List Char) : words cs = [] ↔ ∀ c ∈ cs, isBlank c = true := by
  rw [words, List.filter_eq_nil_iff, ← pieces_all_nil]
  simp only [Bool.not_eq_true', List.isEmpty_eq_false_iff, ne_eq, Decidable.not_not]

/-- The words of a text are those in front of a blank and those behind it. -/
theorem words_append_cons {b : Char} (hb : isBlank b = true) (before behind : List Char) :
    words (before ++ b :: behind) = words before ++ words behind := by
  rw [words, words, words, pieces_append_cons hb, List.filter_append]

/-- A space parts the words in front of it from those behind it. -/
theorem wordsOf_append_space (before behind : String) :
    wordsOf (before ++ " " ++ behind) = wordsOf before ++ wordsOf behind := by
  have hlist : (before ++ " " ++ behind).toList = before.toList ++ ' ' :: behind.toList := by
    rw [String.toList_append, String.toList_append, List.append_assoc]
    rfl
  rw [wordsOf, wordsOf, wordsOf, hlist, words_append_cons (by decide), List.map_append]

private theorem last_dropEndWhile {p : Char → Bool} {cs : List Char} {c : Char}
    (h : (dropEndWhile p cs).getLast? = some c) : p c = false := by
  rw [dropEndWhile, List.getLast?_reverse] at h
  have hn := List.head?_dropWhile_not p cs.reverse
  rwa [h] at hn

/-- What trimming leaves ends in a character that is not blank. -/
theorem not_blank_of_getLast?_trim {cs : List Char} {c : Char}
    (h : (trim cs).getLast? = some c) : isBlank c = false :=
  last_dropEndWhile h

/-- What trimming leaves has a character that is not blank. -/
theorem exists_not_blank_of_trim {cs : List Char} (h : trim cs ≠ []) :
    ∃ c ∈ trim cs, isBlank c = false :=
  ⟨_, List.getLast_mem h, not_blank_of_getLast?_trim (List.getLast?_eq_some_getLast h)⟩

/-- A trimmed text that is not empty has a word. -/
theorem words_trim_ne_nil {cs : List Char} (h : trim cs ≠ []) : words (trim cs) ≠ [] := by
  intro hw
  obtain ⟨c, hc, hb⟩ := exists_not_blank_of_trim h
  rw [(words_eq_nil_iff _).mp hw c hc] at hb
  contradiction

end LeafSwitch.Text
