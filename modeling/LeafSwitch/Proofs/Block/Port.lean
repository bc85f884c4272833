import LeafSwitch.Proofs.Block.Account
import LeafSwitch.Proofs.Block.Layout

/-!
# Blocks about one port

The shortest block that does something has two lines: it turns to a port and asks for something
there. What it asks for is done to the port that the reference means, if there is one, and to no
other.
-/

namespace LeafSwitch

/-- The block that turns to what a text refers to and goes on with a line. -/
def portBlock (ref line : String) : String :=
  "interface " ++ ref ++ "\n" ++ line

/-! ### Reading the block -/

/-- A text in one trimmed line that is not empty is a block of one directive. -/
theorem directivesOf_line {line : String} (hfeed : '\n' ∉ line.toList)
    (htrim : Text.trim line.toList = line.toList) (hne : line ≠ "") {action : Action}
    (haction : lineAction line.toList = .ok action) :
    directivesOf line = .ok [⟨action, line, 1⟩] := by
  have hpiece : Text.pieces (· == '\n') line.toList = [line.toList] := by
    refine Text.pieces_of_forall_not fun c hc => beq_eq_false_iff_ne.mpr ?_
    rintro rfl
    exact hfeed hc
  have hfilled : ¬line.toList.isEmpty = true := by
    rwa [List.isEmpty_iff, String.toList_eq_nil_iff]
  rw [directivesOf, hpiece, directivesFrom, htrim, if_neg hfilled, Directive.ofLine, haction,
    String.ofList_toList]
  rfl

/-- A line of keywords, with a word behind them, is a block of one directive. -/
theorem directivesOf_wordLine {keywords word : String} (hword : Text.IsWord word) {first : Char}
    {cs : List Char} (hkeywords : keywords.toList = first :: cs)
    (hfirst : Text.isBlank first = false) (hfeed : '\n' ∉ keywords.toList) {action : Action}
    (haction : lineAction (keywords ++ word).toList = .ok action) :
    directivesOf (keywords ++ word) = .ok [⟨action, keywords ++ word, 1⟩] := by
  have hlist : (keywords ++ word).toList = first :: cs ++ word.toList := by
    rw [String.toList_append, hkeywords]
  have htrim : Text.trim (keywords ++ word).toList = (keywords ++ word).toList := by
    rw [hlist]
    exact hword.trim_append first hfirst cs
  have hnofeed : '\n' ∉ (keywords ++ word).toList := by
    rw [String.toList_append, List.mem_append]
    exact not_or.mpr ⟨hfeed, hword.lineFeed_not_mem⟩
  have hne : keywords ++ word ≠ "" := by
    intro hempty
    rw [← String.toList_eq_nil_iff, hlist] at hempty
    exact List.cons_ne_nil _ _ hempty
  exact directivesOf_line hnofeed htrim hne haction

/-- A line turns to the word behind `interface`. -/
theorem lineAction_enter {ref : String} (href : Text.IsWord ref) :
    lineAction ("interface " ++ ref).toList = .ok (.enter ref) := by
  have hwords : Text.words ("interface ".toList ++ ref.toList) =
      ["interface".toList, ref.toList] := by
    have hsplit := Text.words_append_cons (b := ' ') (by decide) "interface".toList ref.toList
    rwa [href.words_toList] at hsplit
  have hhead : ("interface ".toList ++ ref.toList).head? = some 'i' := rfl
  rw [String.toList_append, lineAction, hhead, if_neg (by decide), hwords]
  dsimp only
  rw [if_pos rfl, String.ofList_toList]

/-- The line that turns to a word is a block of its own. -/
theorem directivesOf_enter {ref : String} (href : Text.IsWord ref) :
    directivesOf ("interface " ++ ref) = .ok [⟨.enter ref, "interface " ++ ref, 1⟩] :=
  directivesOf_wordLine href rfl (by decide) (by decide) (lineAction_enter href)

/-- The block has the line that turns to the port, and the line below it. -/
theorem directivesOf_portBlock {ref : String} (href : Text.IsWord ref) {line : String}
    {action : Action} (hline : directivesOf line = .ok [⟨action, line, 1⟩]) :
    directivesOf (portBlock ref line) =
      .ok [⟨.enter ref, "interface " ++ ref, 1⟩, ⟨action, line, 2⟩] := by
  have hcount : ("interface " ++ ref).toList.count '\n' = 0 := by
    rw [String.toList_append, List.count_append,
      List.count_eq_zero_of_not_mem href.lineFeed_not_mem]
    rfl
  rw [portBlock, directivesOf_append_line (directivesOf_enter href) hline, hcount]
  rfl

/-! ### What the block does -/

/-- The block touches the port that it turns to, if there is one and the line below asks for
something there. -/
theorem touches_portBlock (d : Device) {action : Action} (h : action.isContextual = true)
    (ref line line' : String) (n m : Int) :
    touches d [⟨.enter ref, line, n⟩, ⟨action, line', m⟩] =
      (d.find? (some ref)).toList.map fun i => (i.id, action) := by
  have hcontext : (Directive.mk (.enter ref) line n).contextAfter d none =
      (d.find? (some ref)).map (·.id) := by
    rw [Directive.contextAfter, Directive.turn?]
    dsimp only
    cases d.find? (some ref) <;> rfl
  have htouch : ∀ context : Option String, (Directive.mk action line' m).touch? context =
      context.map fun id => (id, action) := by
    intro context
    rw [Directive.touch?, if_pos h]
  rw [← touchesFrom_none, touchesFrom_cons, hcontext, touchesFrom_cons, htouch]
  cases d.find? (some ref) <;> rfl

/-- An action on one port is done to this port, and to no other. -/
theorem Interface.settled_actionsOn_singleton (i : Interface) (id : String) (action : Action) :
    i.settled (actionsOn i.id [(id, action)]) = if i.id = id then i.touched action else i := by
  rw [actionsOn_singleton]
  by_cases hid : i.id = id
  · rw [if_pos hid, if_pos hid.symm, Interface.settled_cons, Interface.settled_nil]
  · rw [if_neg hid, if_neg (Ne.symm hid), Interface.settled_nil]

end LeafSwitch
