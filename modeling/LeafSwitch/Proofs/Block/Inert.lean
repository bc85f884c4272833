import LeafSwitch.Proofs.Block.Alike

/-!
# Lines that do nothing

A remark, a line that means nothing, a turn to an interface that there is not, and a line about an
interface where there is none: such lines leave the context and touch nothing. Which lines these are
depends on the whole block, but all of them can be erased at once, and the rest does the same.
-/

namespace LeafSwitch

/-- Whether a line does nothing in the context that it is met in: it is a remark, it means nothing,
it refers to no interface, or it is about an interface where there is none. -/
def Directive.isInert (d : Device) (context : Option String) (x : Directive) : Bool :=
  x.action == .comment || x.isPassedOver d context

/-- A block that is begun in some context, without the lines that do nothing. -/
def effective (d : Device) (context : Option String) (block : List Directive) : List Directive :=
  ((inContext d context block).filter fun (x, c) => !x.isInert d c).map (·.1)

/-- The lines of a text that is begun in some context, without those that do nothing; blank lines
stay. Which lines do nothing is decided before any is erased. -/
def effectiveLines (d : Device) : Option String → List (List Char) → List (List Char)
  | _, [] => []
  | context, raw :: rest =>
    match lineAction (Text.trim raw) with
    | .error _ => raw :: effectiveLines d context rest
    | .ok action =>
      let x : Directive := ⟨action, String.ofList (Text.trim raw), 0⟩
      let more := effectiveLines d (x.contextAfter d context) rest
      if x.isInert d context then more else raw :: more

/-- A block from which all the lines have been erased that do nothing on a device. -/
def erased (d : Device) (block : String) : String :=
  Text.join "\n"
    ((effectiveLines d none (Text.pieces (· == '\n') block.toList)).map String.ofList)

/-! ### Directives that do nothing -/

/-- A line that does nothing leaves the context. -/
theorem Directive.contextAfter_of_isInert {d : Device} {context : Option String} {x : Directive}
    (h : x.isInert d context = true) : x.contextAfter d context = context := by
  rw [contextAfter, turn?]
  cases ha : x.action with
  | enter ref =>
    simp only [isInert, isPassedOver, ha, Bool.or_eq_true, beq_iff_eq, reduceCtorEq, false_or,
      Option.isNone_iff_eq_none] at h
    dsimp only
    rw [h]
    rfl
  | exit =>
    simp only [isInert, isPassedOver, ha] at h
    contradiction
  | shutdown | noShutdown | describe | accessVlan | comment | ignored => rfl

/-- A line that does nothing touches no interface. -/
theorem Directive.touch?_of_isInert {d : Device} {context : Option String} {x : Directive}
    (h : x.isInert d context = true) : x.touch? context = none := by
  rw [touch?]
  cases hx : x.action.isContextual with
  | false => rfl
  | true =>
    have hremark : (x.action == .comment) = false := by
      cases ha : x.action <;> rw [ha] at hx <;> first | rfl | contradiction
    have hnone : context.isNone = true := by
      rw [isInert, hremark, Bool.false_or, isPassedOver_of_contextual hx] at h
      exact h
    rw [Option.isNone_iff_eq_none.mp hnone]
    rfl

theorem effective_cons (d : Device) (context : Option String) (x : Directive)
    (rest : List Directive) :
    effective d context (x :: rest) =
      (if x.isInert d context then [] else [x]) ++
        effective d (x.contextAfter d context) rest := by
  rw [effective, inContext]
  cases hx : x.isInert d context with
  | true =>
    rw [List.filter_cons_of_neg (by simp [hx])]
    rfl
  | false =>
    rw [List.filter_cons_of_pos (by simp [hx])]
    rfl

/-- A block is begun without an interface, so its own lines decide which of them do nothing. -/
theorem effective_none (d : Device) (block : List Directive) :
    effective d none block =
      ((block.zip block.inits).filter fun (x, earlier) =>
        !x.isInert d (governor? d earlier)).map (·.1) := by
  rw [effective, inContext_none, List.zip_map_right, List.filter_map, List.map_map]
  rfl

/-- No directive is new. -/
theorem effective_subset (d : Device) (context : Option String) (block : List Directive) :
    effective d context block ⊆ block := by
  induction block generalizing context with
  | nil => exact List.nil_subset _
  | cons x rest ih =>
    rw [effective_cons]
    cases x.isInert d context with
    | true => exact List.subset_cons_of_subset x (ih _)
    | false => exact List.cons_subset_cons x (ih _)

/-- What a block does to interfaces it does without the lines that do nothing. -/
theorem touchesFrom_effective (d : Device) (context : Option String) (block : List Directive) :
    touchesFrom d context (effective d context block) = touchesFrom d context block := by
  induction block generalizing context with
  | nil => rfl
  | cons x rest ih =>
    rw [effective_cons, touchesFrom_cons d context x rest]
    cases hx : x.isInert d context with
    | true =>
      rw [if_pos rfl, List.nil_append, Directive.contextAfter_of_isInert hx,
        Directive.touch?_of_isInert hx, ih]
      rfl
    | false =>
      rw [if_neg Bool.false_ne_true, List.singleton_append, touchesFrom_cons, ih]

/-- Once the lines that do nothing are erased, none is left that is without effect. -/
theorem passedFrom_effective (d : Device) (context : Option String) (block : List Directive) :
    passedFrom d context (effective d context block) = 0 := by
  induction block generalizing context with
  | nil => rfl
  | cons x rest ih =>
    rw [effective_cons]
    cases hx : x.isInert d context with
    | true =>
      rw [if_pos rfl, List.nil_append, Directive.contextAfter_of_isInert hx, ih]
    | false =>
      have hpassed : x.isPassedOver d context = false := (Bool.or_eq_false_iff.mp hx).2
      rw [if_neg Bool.false_ne_true, List.singleton_append, passedFrom_cons, hpassed, ih]
      rfl

/-! ### The text of a block -/

/-- No line is new. -/
theorem effectiveLines_subset (d : Device) (context : Option String) (lines : List (List Char)) :
    effectiveLines d context lines ⊆ lines := by
  induction lines generalizing context with
  | nil => exact List.nil_subset _
  | cons raw rest ih =>
    rw [effectiveLines]
    cases lineAction (Text.trim raw) with
    | error _ => exact List.cons_subset_cons raw (ih context)
    | ok action =>
      dsimp only
      split
      · exact List.subset_cons_of_subset raw (ih _)
      · exact List.cons_subset_cons raw (ih _)

/-- The lines that are left are those that the directives are written on that are left. -/
theorem filled_effectiveLines {d : Device} {context : Option String} {number : Int}
    {lines : List (List Char)} {xs : List Directive} (h : directivesFrom number lines = .ok xs) :
    (Text.filled (effectiveLines d context lines)).map String.ofList =
      (effective d context xs).map (·.line) := by
  induction lines generalizing context number xs with
  | nil =>
    obtain rfl : [] = xs := Except.ok.inj h
    rfl
  | cons raw rest ih =>
    rcases directivesFrom_cases h with ⟨hblank, h⟩ | ⟨hfilled, action, more, haction, hmore, rfl⟩
    · have hnone : Text.filled [raw] = [] := by simp [Text.filled, hblank]
      have hfail : lineAction (Text.trim raw) = .error .blank := by
        rw [hblank]
        rfl
      rw [effectiveLines, hfail]
      dsimp only
      rw [Text.filled_cons, hnone, List.nil_append, ih h]
    · have hone : Text.filled [raw] = [Text.trim raw] := by simp [Text.filled, hfilled]
      let x : Directive := ⟨action, String.ofList (Text.trim raw), number⟩
      -- Neither the context behind a line nor whether it does anything depends on its number.
      have hlines : effectiveLines d context (raw :: rest) =
          (if x.isInert d context then [] else [raw]) ++
            effectiveLines d (x.contextAfter d context) rest := by
        rw [effectiveLines, haction]
        cases hx : x.isInert d context with
        | true => exact if_pos hx
        | false => exact if_neg (Bool.eq_false_iff.mp hx)
      rw [hlines, effective_cons, Text.filled_append, List.map_append, List.map_append, ih hmore]
      cases x.isInert d context with
      | true => rfl
      | false =>
        rw [if_neg Bool.false_ne_true, if_neg Bool.false_ne_true, hone]
        rfl

/-- Erasing lines leaves the directives that do something, but for their numbers. -/
theorem content_erased {d : Device} {block : String} {xs ys : List Directive}
    (hxs : directivesOf block = .ok xs) (hys : directivesOf (erased d block) = .ok ys) :
    ys.map Directive.content = (effective d none xs).map Directive.content := by
  obtain ⟨_, hactions⟩ := directivesFrom_spec hxs
  obtain ⟨hlines, hactions'⟩ := directivesFrom_spec hys
  have hclean : ∀ line ∈ effectiveLines d none (Text.pieces (· == '\n') block.toList),
      '\n' ∉ line := by
    intro line hline hmem
    have hpiece := effectiveLines_subset d none _ hline
    exact absurd (Text.mem_of_mem_pieces hpiece hmem).2 (by decide)
  refine content_eq_of_lines hactions' (fun x hx => hactions x (effective_subset d none xs hx)) ?_
  rw [← filled_effectiveLines hxs, ← blockLines_join hclean]
  exact hlines

/-! ### Blocks without such lines -/

/-- The lines of a block that do nothing where it is applied can be erased, all of them at once.
What is left are the directives that do something where the lines before them have turned to, and
applying it, whenever that is done, leaves a device alike, with the same notices behind its log. The
same number of directives is applied, the same interfaces and VLANs are told, and no line is left
without effect. -/
theorem Switch.applyBlock_erased {d : Device} (hd : d.WellFormed) (site site' : Site)
    (tracker : Option Tracker) (s : Submission) :
    ∃ xs ys r after r' after', directivesOf s.block = .ok xs ∧
      directivesOf (erased d s.block) = .ok ys ∧
      (ys.map Directive.content = ((xs.zip xs.inits).filter fun (x, earlier) =>
        !x.isInert d (governor? d earlier)).map fun (x, _) => x.content) ∧
      Switch.applyBlock ⟨d, site⟩ tracker s = .ok (r, after) ∧
      Switch.applyBlock ⟨d, site'⟩ tracker { s with block := erased d s.block } =
        .ok (r', after') ∧
      after'.device.Alike after.device ∧
      (∃ entries entries', after.device.logs = d.logs ++ entries ∧
        after'.device.logs = d.logs ++ entries' ∧
        entries'.map (·.notice) = entries.map (·.notice)) ∧
      r'.applied = r.applied ∧ r'.changed = r.changed ∧ r'.created = r.created ∧
      r'.ignored = 0 := by
  have hd₁ : (Switch.mk d site).device.WellFormed := hd
  have hd₂ : (Switch.mk d site').device.WellFormed := hd
  obtain ⟨xs, t, r, after, hxs, happly, h⟩ := Switch.exists_applyBlock hd₁ tracker s
  obtain ⟨ys, t', r', after', hys, happly', h'⟩ :=
    Switch.exists_applyBlock hd₂ tracker { s with block := erased d s.block }
  have hcontent := content_erased hxs hys
  have hactions := actions_eq_of_content hcontent
  have htouches : touches d ys = touches d xs := by
    rw [← touchesFrom_none, touchesFrom_congr hactions, touchesFrom_effective, touchesFrom_none]
  have hignored : passedFrom d none ys = 0 := by
    rw [passedFrom_congr hactions, passedFrom_effective]
  have halike : after'.device.Alike after.device := h.alike (.refl d) hd₁ h' htouches
  obtain ⟨entries, hlogs, _⟩ := h.exists_entries
  obtain ⟨entries', hlogs', _⟩ := h'.exists_entries
  refine ⟨xs, ys, r, after, r', after', hxs, hys, ?_, happly, happly', halike,
    ⟨entries, entries', hlogs, hlogs', ?_⟩, ?_, ?_, ?_, ?_⟩
  · rw [hcontent, effective_none, List.map_map]
    rfl
  · have hnotices := halike.notices
    rw [hlogs, hlogs', List.map_append, List.map_append] at hnotices
    exact List.append_cancel_left hnotices
  · rw [h.applied_eq, h'.applied_eq]
    exact congrArg (fun acts => (List.length acts : Int)) htouches
  · have hnames := h.namesOf_touchedIds hd₁
    have hnames' := h'.namesOf_touchedIds hd₂
    rw [touchedIds] at hnames hnames'
    dsimp only at hnames hnames'
    rw [htouches, hnames] at hnames'
    exact (Except.ok.inj hnames').symm
  · rw [h.created_eq hd₁, h'.created_eq hd₂, halike.vlans]
  · rw [h'.ignored]
    exact congrArg Int.ofNat hignored

/-- Of the block that turns, the turn to a port that there is not is erased, the remark, and the
line behind the turn away. -/
theorem Switch.applyBlock_erased_turning :
    Device.twoPorts.WellFormed ∧
      erased Device.twoPorts Submission.turning.block = Text.join "\n" ["interface ET1", "shutdown",
        "switchport access vlan 20", "switchport access vlan 0", "no shutdown", "exit"] ∧
      ∃ r after r' after',
        Switch.applyBlock ⟨Device.twoPorts, Site.quiet⟩ none Submission.turning = .ok (r, after) ∧
        Switch.applyBlock ⟨Device.twoPorts, Site.quiet⟩ none
          { Submission.turning with block := erased Device.twoPorts Submission.turning.block } =
            .ok (r', after') ∧
        after'.device.Alike after.device ∧ r'.applied = r.applied ∧ r'.ignored = 0 := by
  have hd : Device.twoPorts.WellFormed := by decide
  obtain ⟨_, _, r, after, r', after', _, _, _, happly, happly', halike, _, happlied, _, _,
    hignored⟩ := Switch.applyBlock_erased hd Site.quiet Site.quiet none Submission.turning
  exact ⟨hd, by decide +kernel, r, after, r', after', happly, happly', halike, happlied, hignored⟩

end LeafSwitch
