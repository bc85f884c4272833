import LeafSwitch.Proofs.Block.Lines
import LeafSwitch.Proofs.Text.Columns

/-!
# The layout of a block

A block is read line by line: what stands on a line is a directive of its own, whatever stands on
the lines around it. So a block of two texts has the directives of the first, and further down those
of the second. Blanks around the lines are no part of what is read, so a block has the same
directives however its lines are moved in, and whether they end in a line feed or in a return and a
line feed. -/

namespace LeafSwitch

namespace Text

/-- A line has become another one by blanks in front of it and behind it that end no line. -/
def PaddedTo (line wide : List Char) : Prop :=
  ∃ before after : List Char, (∀ c ∈ before ++ after, isBlank c = true ∧ c ≠ '\n') ∧
    wide = before ++ (line ++ after)

/-- Characters around a line are found to be such blanks one by one. -/
theorem paddedTo_of_all {line wide : List Char} (before after : List Char)
    (h : ((before ++ after).all fun c => isBlank c && c != '\n') = true)
    (hwide : wide = before ++ (line ++ after)) : PaddedTo line wide := by
  refine ⟨before, after, fun c hc => ?_, hwide⟩
  simpa only [Bool.and_eq_true, bne_iff_ne] using List.all_eq_true.mp h c hc

/-- Blanks around a line are trimmed. -/
theorem PaddedTo.trim_eq {line wide : List Char} (h : PaddedTo line wide) :
    trim wide = trim line := by
  obtain ⟨before, after, hblank, rfl⟩ := h
  have hbefore : ∀ c ∈ before, isBlank c = true :=
    fun c hc => (hblank c (List.mem_append_left after hc)).1
  have hafter : ∀ c ∈ after, isBlank c = true :=
    fun c hc => (hblank c (List.mem_append_right before hc)).1
  rw [trim_append_left hbefore, trim_append_right hafter]

/-- Blanks that end no line leave a line without a line feed. -/
theorem PaddedTo.lineFeed_not_mem {line wide : List Char} (h : PaddedTo line wide)
    (hline : '\n' ∉ line) : '\n' ∉ wide := by
  obtain ⟨before, after, hblank, rfl⟩ := h
  intro hfeed
  rcases List.mem_append.mp hfeed with hfeed | hfeed
  · exact (hblank '\n' (List.mem_append_left after hfeed)).2 rfl
  · rcases List.mem_append.mp hfeed with hfeed | hfeed
    · exact hline hfeed
    · exact (hblank '\n' (List.mem_append_right before hfeed)).2 rfl

/-- Lines with blanks around them that end no line have no line feed, if the lines have none. -/
theorem lineFeed_not_mem_of_padded {lines wide : List (List Char)}
    (h : List.Forall₂ PaddedTo lines wide) (hlines : ∀ line ∈ lines, '\n' ∉ line) :
    ∀ w ∈ wide, '\n' ∉ w := by
  induction h with
  | nil => exact List.forall_mem_nil _
  | cons hpadded _ ih =>
    obtain ⟨hline, hrest⟩ := List.forall_mem_cons.mp hlines
    exact List.forall_mem_cons.mpr ⟨hpadded.lineFeed_not_mem hline, ih hrest⟩

/-- The lines of a text hold no line feed. -/
theorem lineFeed_not_mem_of_mem_pieces {cs line : List Char}
    (h : line ∈ pieces (· == '\n') cs) : '\n' ∉ line :=
  fun hfeed => Bool.false_ne_true (mem_of_mem_pieces h hfeed).2.symm

/-- A text with a return in front of each line feed. -/
def withReturns : List Char → List Char
  | [] => []
  | c :: cs => if c == '\n' then '\r' :: '\n' :: withReturns cs else c :: withReturns cs

/-- A return in front of each line feed is put behind the lines that it ends. -/
theorem pieces_withReturns (cs : List Char) :
    List.Forall₂ (fun line wide => wide = line ∨ wide = line ++ ['\r'])
      (pieces (· == '\n') cs) (pieces (· == '\n') (withReturns cs)) := by
  induction cs with
  | nil => exact .cons (Or.inl rfl) .nil
  | cons c cs ih =>
    rw [withReturns]
    cases hc : c == '\n' with
    | true =>
      have hreturn : pieces (· == '\n') ('\r' :: '\n' :: withReturns cs) =
          ['\r'] :: pieces (· == '\n') (withReturns cs) := by
        have hlone : '\n' ∉ ['\r'] := by decide
        exact pieces_line hlone (withReturns cs)
      rw [if_pos rfl, pieces_cons_of_cut (p := (· == '\n')) hc, hreturn]
      exact .cons (Or.inr rfl) ih
    | false =>
      obtain ⟨line, rest, hline⟩ := List.exists_cons_of_ne_nil (pieces_ne_nil (p := (· == '\n')) cs)
      obtain ⟨wide, more, hwide⟩ := List.exists_cons_of_ne_nil
        (pieces_ne_nil (p := (· == '\n')) (withReturns cs))
      rw [hline, hwide] at ih
      obtain ⟨hfirst, hrest⟩ := List.forall₂_cons.mp ih
      rw [if_neg Bool.false_ne_true, pieces_cons_of_not_cut (p := (· == '\n')) hc hline,
        pieces_cons_of_not_cut (p := (· == '\n')) hc hwide]
      refine .cons ?_ hrest
      rcases hfirst with rfl | rfl
      · exact Or.inl rfl
      · exact Or.inr rfl

/-- Returns in front of line feeds are blanks behind lines. -/
theorem paddedTo_withReturns (cs : List Char) :
    List.Forall₂ PaddedTo (pieces (· == '\n') cs) (pieces (· == '\n') (withReturns cs)) := by
  refine (pieces_withReturns cs).imp ?_
  rintro line wide (rfl | rfl)
  · exact paddedTo_of_all [] [] rfl (List.append_nil _).symm
  · exact paddedTo_of_all [] ['\r'] (by decide) rfl

end Text

/-! ### Lines further down -/

/-- A directive with its line so many lines further down. -/
def Directive.movedDown (n : Int) (x : Directive) : Directive :=
  { x with number := x.number + n }

/-- Lines further down have their directives further down. -/
theorem directivesFrom_movedDown {number : Int} {lines : List (List Char)} {xs : List Directive}
    (h : directivesFrom number lines = .ok xs) (n : Int) :
    directivesFrom (number + n) lines = .ok (xs.map (Directive.movedDown n)) := by
  induction lines generalizing number xs with
  | nil =>
    obtain rfl : [] = xs := Except.ok.inj h
    rfl
  | cons raw rest ih =>
    have hnumber : number + n + 1 = number + 1 + n := Int.add_right_comm ..
    rw [directivesFrom, hnumber]
    rcases directivesFrom_cases h with ⟨hblank, h⟩ | ⟨hfilled, action, more, haction, hmore, rfl⟩
    · rw [hblank]
      exact ih h
    · rw [if_neg (mt List.isEmpty_iff.mp hfilled), Directive.ofLine, haction, ih hmore]
      rfl

/-- Some lines and further lines have the directives of the former, and then of the latter from the
number on that comes behind the former. -/
theorem directivesFrom_append {number : Int} {lines more : List (List Char)}
    {xs ys : List Directive} (h : directivesFrom number lines = .ok xs)
    (hmore : directivesFrom (number + lines.length) more = .ok ys) :
    directivesFrom number (lines ++ more) = .ok (xs ++ ys) := by
  induction lines generalizing number xs with
  | nil =>
    obtain rfl : [] = xs := Except.ok.inj h
    rwa [List.length_nil, Int.natCast_zero, Int.add_zero] at hmore
  | cons raw rest ih =>
    have hnumber : number + ((raw :: rest).length : Nat) = number + 1 + (rest.length : Nat) := by
      rw [List.length_cons, Int.natCast_succ]
      omega
    rw [hnumber] at hmore
    rw [List.cons_append, directivesFrom]
    rcases directivesFrom_cases h with ⟨hblank, h⟩ | ⟨hfilled, action, zs, haction, hrest, rfl⟩
    · rw [hblank]
      exact ih h hmore
    · rw [if_neg (mt List.isEmpty_iff.mp hfilled), Directive.ofLine, haction, ih hrest hmore]
      rfl

/-- A block of two texts, one below the other, has the directives of the first text, and those of
the second as many lines further down as the first text has. -/
theorem directivesOf_append_line {a b : String} {xs ys : List Directive}
    (ha : directivesOf a = .ok xs) (hb : directivesOf b = .ok ys) :
    directivesOf (a ++ "\n" ++ b) =
      .ok (xs ++ ys.map (Directive.movedDown (a.toList.count '\n' + 1))) := by
  have hlist : (a ++ "\n" ++ b).toList = a.toList ++ '\n' :: b.toList := by
    rw [String.toList_append, String.toList_append, List.append_assoc]
    rfl
  have hlength : ((Text.pieces (· == '\n') a.toList).length : Int) = a.toList.count '\n' + 1 := by
    rw [Text.length_pieces, List.count]
    rfl
  rw [directivesOf, hlist, Text.pieces_append_cons rfl]
  refine directivesFrom_append ha ?_
  rw [hlength]
  exact directivesFrom_movedDown hb _

/-! ### Blanks around lines -/

/-- Lines are read by what is left of them after trimming. -/
theorem directivesFrom_congr {lines wide : List (List Char)}
    (h : List.Forall₂ (fun line w => Text.trim w = Text.trim line) lines wide) (number : Int) :
    directivesFrom number wide = directivesFrom number lines := by
  induction h generalizing number with
  | nil => rfl
  | cons htrim _ ih => rw [directivesFrom, directivesFrom, htrim, ih]

/-- Blanks around the lines of a block do not change its directives. -/
theorem directivesOf_padded {block : String} {wide : List (List Char)}
    (h : List.Forall₂ Text.PaddedTo (Text.pieces (· == '\n') block.toList) wide) :
    directivesOf (Text.join "\n" (wide.map String.ofList)) = directivesOf block := by
  have hne : wide ≠ [] := by
    rintro rfl
    exact Text.pieces_ne_nil _ (List.forall₂_nil_right_iff.mp h)
  have hfeed : ∀ w ∈ wide, '\n' ∉ w :=
    Text.lineFeed_not_mem_of_padded h fun _ => Text.lineFeed_not_mem_of_mem_pieces
  rw [directivesOf, Text.pieces_join rfl hne hfeed]
  exact directivesFrom_congr (h.imp fun _ _ => Text.PaddedTo.trim_eq) 1

/-- Returns in front of the line feeds of a block do not change its directives. -/
theorem directivesOf_withReturns (block : String) :
    directivesOf (String.ofList (Text.withReturns block.toList)) = directivesOf block := by
  rw [directivesOf, String.toList_ofList]
  exact directivesFrom_congr
    ((Text.paddedTo_withReturns block.toList).imp fun _ _ => Text.PaddedTo.trim_eq) 1

/-! ### What stands on the lines -/

/-- Directives come in the order of their lines, from the first number on. -/
theorem directivesFrom_ascending {number : Int} {lines : List (List Char)} {xs : List Directive}
    (h : directivesFrom number lines = .ok xs) :
    (∀ x ∈ xs, number ≤ x.number) ∧ (xs.map (·.number)).Pairwise (· < ·) := by
  induction lines generalizing number xs with
  | nil =>
    obtain rfl : [] = xs := Except.ok.inj h
    exact ⟨List.forall_mem_nil _, List.Pairwise.nil⟩
  | cons raw rest ih =>
    rcases directivesFrom_cases h with ⟨_, h⟩ | ⟨_, action, more, _, hmore, rfl⟩
    · obtain ⟨hleast, hascending⟩ := ih h
      exact ⟨fun x hx => Int.le_of_lt (hleast x hx), hascending⟩
    · obtain ⟨hleast, hascending⟩ := ih hmore
      refine ⟨List.forall_mem_cons.mpr
        ⟨Int.le_refl number, fun x hx => Int.le_of_lt (hleast x hx)⟩, ?_⟩
      refine List.pairwise_cons.mpr ⟨fun m hm => ?_, hascending⟩
      obtain ⟨x, hx, rfl⟩ := List.mem_map.mp hm
      exact hleast x hx

/-- A directive stands on a line that is trimmed and not empty. -/
theorem line_trimmed_of_mem {number : Int} {lines : List (List Char)} {xs : List Directive}
    (h : directivesFrom number lines = .ok xs) {x : Directive} (hx : x ∈ xs) :
    x.line ≠ "" ∧ Text.trimmed x.line = x.line := by
  have hmem : x.line ∈ (Text.filled lines).map String.ofList :=
    (directivesFrom_spec h).1 ▸ List.mem_map_of_mem hx
  obtain ⟨line, hline, hofList⟩ := List.mem_map.mp hmem
  obtain ⟨htrimmed, hfilled⟩ := List.mem_filter.mp hline
  obtain ⟨raw, _, rfl⟩ := List.mem_map.mp htrimmed
  have hne : Text.trim raw ≠ [] := by
    rwa [Bool.not_eq_true', List.isEmpty_eq_false_iff] at hfilled
  rw [← hofList]
  refine ⟨?_, ?_⟩
  · rwa [ne_eq, ← String.toList_eq_nil_iff, String.toList_ofList]
  · rw [Text.trimmed, String.toList_ofList, Text.trim_trim]

/-- A block is read line by line. Below a text, and a line feed, a second text has its own
directives, only further down. The directives of a text are the same with any blanks around its
lines that end no line, and with returns in front of its line feeds. They stand on ascending lines,
which are trimmed and not empty. -/
theorem directivesOf_line_by_line (a b : String) :
    ∃ xs ys, directivesOf a = .ok xs ∧ directivesOf b = .ok ys ∧
      directivesOf (a ++ "\n" ++ b) =
        .ok (xs ++ ys.map (Directive.movedDown (a.toList.count '\n' + 1))) ∧
      (∀ wide, List.Forall₂ Text.PaddedTo (Text.pieces (· == '\n') a.toList) wide →
        directivesOf (Text.join "\n" (wide.map String.ofList)) = .ok xs) ∧
      directivesOf (String.ofList (Text.withReturns a.toList)) = .ok xs ∧
      (xs.map (·.number)).Pairwise (· < ·) ∧
      ∀ x ∈ xs, x.line ≠ "" ∧ Text.trimmed x.line = x.line := by
  obtain ⟨xs, hxs, _⟩ := exists_directivesOf a
  obtain ⟨ys, hys, _⟩ := exists_directivesOf b
  refine ⟨xs, ys, hxs, hys, directivesOf_append_line hxs hys, ?_, ?_,
    (directivesFrom_ascending hxs).2, fun x hx => line_trimmed_of_mem hxs hx⟩
  · intro wide hwide
    rw [directivesOf_padded hwide, hxs]
  · rw [directivesOf_withReturns, hxs]

/-- A description keeps the form feed inside it and loses the separator behind it, and the line that
is blank all the same counts. -/
theorem directivesOf_line_by_line_wide :
    ∃ xs, directivesOf "interface et1\ndescription Rack\x0c4\n\nexit" = .ok xs ∧
      directivesOf "\tinterface et1\r\n\u00a0description Rack\x0c4\u2028\n\x0b\n exit" = .ok xs ∧
      xs.map (·.number) = [1, 2, 4] := by
  obtain ⟨xs, _, hxs, _, _, hwide, _⟩ :=
    directivesOf_line_by_line "interface et1\ndescription Rack\x0c4\n\nexit" ""
  have hpadded : List.Forall₂ Text.PaddedTo
      (Text.pieces (· == '\n') "interface et1\ndescription Rack\x0c4\n\nexit".toList)
      ["\tinterface et1\r".toList, "\u00a0description Rack\x0c4\u2028".toList, "\x0b".toList,
        " exit".toList] :=
    .cons (Text.paddedTo_of_all ['\t'] ['\r'] (by decide) (by decide +kernel))
      (.cons (Text.paddedTo_of_all ['\u00a0'] ['\u2028'] (by decide) (by decide +kernel))
        (.cons (Text.paddedTo_of_all ['\x0b'] [] (by decide) (by decide +kernel))
          (.cons (Text.paddedTo_of_all [' '] [] (by decide) (by decide +kernel)) .nil)))
  have hnumbers : (directivesOf "interface et1\ndescription Rack\x0c4\n\nexit").map
      (·.map (·.number)) = .ok [1, 2, 4] := by
    decide +kernel
  refine ⟨xs, hxs, hwide _ hpadded, ?_⟩
  rw [hxs] at hnumbers
  exact Except.ok.inj hnumbers

end LeafSwitch
