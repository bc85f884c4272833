import LeafSwitch.Proofs.Block.Direct
import LeafSwitch.Proofs.Block.Meaning
import LeafSwitch.Proofs.Text.Lines

/-!
# Blocks by their lines

A block is known by its filled lines: they decide what its directives ask for, up to the numbers of
the lines, and what the directives ask for decides what becomes of the device.
-/

namespace LeafSwitch

/-- The filled lines of a block, in order. -/
def blockLines (block : String) : List (List Char) :=
  Text.filled (Text.pieces (· == '\n') block.toList)

/-- What a directive asks for and the line it is written on, without the number of the line. -/
def Directive.content (x : Directive) : Action × String :=
  (x.action, x.line)

/-- The directives on some lines are written on the filled ones, and ask for what these say. -/
theorem directivesFrom_spec {number : Int} {lines : List (List Char)} {xs : List Directive}
    (h : directivesFrom number lines = .ok xs) :
    xs.map (·.line) = (Text.filled lines).map String.ofList ∧
      ∀ x ∈ xs, lineAction x.line.toList = .ok x.action := by
  induction lines generalizing number xs with
  | nil =>
    obtain rfl : [] = xs := Except.ok.inj h
    exact ⟨rfl, fun x hx => absurd hx List.not_mem_nil⟩
  | cons raw rest ih =>
    rw [Text.filled_cons]
    rcases directivesFrom_cases h with ⟨hblank, h⟩ | ⟨hfilled, action, more, haction, hmore, rfl⟩
    · have hnone : Text.filled [raw] = [] := by simp [Text.filled, hblank]
      rw [hnone, List.nil_append]
      exact ih h
    · have hone : Text.filled [raw] = [Text.trim raw] := by simp [Text.filled, hfilled]
      obtain ⟨hlines, hactions⟩ := ih hmore
      refine ⟨?_, ?_⟩
      · rw [hone, List.map_cons, hlines]
        rfl
      · intro x hx
        rcases List.mem_cons.mp hx with rfl | hx
        · rw [String.toList_ofList, haction]
        · exact hactions x hx

/-- The lines that hold more than blanks, trimmed, each with its place, where the first line has the
given one. -/
def placed (first : Nat) (lines : List String) : List (Int × String) :=
  ((lines.zipIdx first).filter fun p => !(Text.trimmed p.1).isEmpty).map fun p =>
    (p.2, Text.trimmed p.1)

/-- A line that is blank keeps its place without a directive, and any other line is placed. -/
theorem placed_cons (first : Nat) (raw : List Char) (rest : List String) :
    placed first (String.ofList raw :: rest) =
      if (Text.trim raw).isEmpty then placed (first + 1) rest
      else ((first : Int), String.ofList (Text.trim raw)) :: placed (first + 1) rest := by
  have htrimmed : Text.trimmed (String.ofList raw) = String.ofList (Text.trim raw) := by
    rw [Text.trimmed, String.toList_ofList]
  have hempty : (String.ofList (Text.trim raw)).isEmpty = (Text.trim raw).isEmpty := by
    rw [Bool.eq_iff_iff, String.isEmpty_iff, List.isEmpty_iff, ← String.toList_eq_nil_iff,
      String.toList_ofList]
  rw [placed, List.zipIdx_cons, List.filter_cons]
  dsimp only
  rw [htrimmed, hempty]
  cases (Text.trim raw).isEmpty with
  | true => rfl
  | false =>
    rw [Bool.not_false, if_pos rfl, if_neg Bool.false_ne_true, List.map_cons]
    dsimp only
    rw [htrimmed]
    rfl

/-- Every line that holds more than blanks is placed once. -/
theorem length_placed (first : Nat) (lines : List String) :
    (placed first lines).length =
      (lines.filter fun line => !(Text.trimmed line).isEmpty).length := by
  have hfilter : (((lines.zipIdx first).filter fun p => !(Text.trimmed p.1).isEmpty).map (·.1)) =
      lines.filter fun line => !(Text.trimmed line).isEmpty := by
    have hcomp := List.filter_map (f := Prod.fst) (p := fun line => !(Text.trimmed line).isEmpty)
      (l := lines.zipIdx first)
    rw [List.zipIdx_map_fst] at hcomp
    exact hcomp.symm
  rw [placed, List.length_map, ← hfilter, List.length_map]

/-- Directives have the places of the lines that they are written on. -/
theorem directivesFrom_places {first : Nat} {lines : List (List Char)} {xs : List Directive}
    (h : directivesFrom first lines = .ok xs) :
    xs.map (fun x => (x.number, x.line)) = placed first (lines.map String.ofList) := by
  induction lines generalizing first xs with
  | nil =>
    obtain rfl : [] = xs := Except.ok.inj h
    rfl
  | cons raw rest ih =>
    rw [List.map_cons, placed_cons]
    rcases directivesFrom_cases h with ⟨hblank, h⟩ | ⟨hfilled, action, more, _, hmore, rfl⟩
    · rw [hblank]
      exact ih h
    · rw [if_neg (mt List.isEmpty_iff.mp hfilled), List.map_cons, ih hmore]

/-- What directives are written on decides what they ask for. -/
theorem content_eq_of_lines {xs ys : List Directive}
    (hxs : ∀ x ∈ xs, lineAction x.line.toList = .ok x.action)
    (hys : ∀ y ∈ ys, lineAction y.line.toList = .ok y.action)
    (h : xs.map (·.line) = ys.map (·.line)) :
    xs.map Directive.content = ys.map Directive.content := by
  have hread : ∀ zs : List Directive, (∀ z ∈ zs, lineAction z.line.toList = .ok z.action) →
      zs.map Directive.content = (zs.map (·.line)).map fun line =>
        ((lineAction line.toList).toOption.getD .ignored, line) := by
    intro zs hzs
    rw [List.map_map]
    refine List.map_congr_left fun z hz => ?_
    rw [Function.comp_apply, hzs z hz]
    rfl
  rw [hread xs hxs, hread ys hys, h]

/-- Directives with the same content ask for the same. -/
theorem actions_eq_of_content {xs ys : List Directive}
    (h : xs.map Directive.content = ys.map Directive.content) :
    xs.map (·.action) = ys.map (·.action) := by
  have hfst := congrArg (List.map Prod.fst) h
  rwa [List.map_map, List.map_map] at hfst

/-- Blocks with the same filled lines ask for the same, on the same lines. -/
theorem content_eq_of_blockLines {a b : String} {xs ys : List Directive}
    (hxs : directivesOf a = .ok xs) (hys : directivesOf b = .ok ys)
    (h : blockLines a = blockLines b) : xs.map Directive.content = ys.map Directive.content := by
  obtain ⟨hlines, hactions⟩ := directivesFrom_spec hxs
  obtain ⟨hlines', hactions'⟩ := directivesFrom_spec hys
  refine content_eq_of_lines hactions hactions' ?_
  rw [hlines, hlines']
  exact congrArg (List.map String.ofList) h

/-- Lines that are joined by line feeds are the lines of the block that they make. -/
theorem blockLines_join {lines : List (List Char)} (h : ∀ line ∈ lines, '\n' ∉ line) :
    blockLines (Text.join "\n" (lines.map String.ofList)) = Text.filled lines := by
  cases lines with
  | nil => rfl
  | cons line rest => rw [blockLines, Text.pieces_join rfl (List.cons_ne_nil line rest) h]

/-- Blocks that touch the same interfaces in the same way leave the same device. -/
theorem Switch.Applies.device_eq {sw after after' : Switch} {xs ys : List Directive}
    {t t' : Staging} {r r' : Report} (hd : sw.device.WellFormed) (h : sw.Applies xs t r after)
    (h' : sw.Applies ys t' r' after') (htouches : touches sw.device xs = touches sw.device ys) :
    after.device = after'.device := by
  have hseen : ∀ i ∈ sw.device.interfaces, t.seen i = t'.seen i := by
    intro i hi
    rw [h.staged.seen i hi, h'.staged.seen i hi, htouches]
  have hnotices : t.notices = t'.notices := by
    rw [h.staged.notices, h'.staged.notices, htouches]
  have hvlans : ∀ v, v ∈ t.vlans ↔ v ∈ t'.vlans := by
    intro v
    rw [h.staged.vlans, h'.staged.vlans, htouches]
  apply Device.ext
  · rw [h.hostname_eq, h'.hostname_eq]
  · rw [h.device, h'.device, Staging.commit_interfaces, Staging.commit_interfaces]
    exact List.map_congr_left hseen
  · rw [h.vlans_eq hd, h'.vlans_eq hd]
    refine ascending_congr fun m _ => ?_
    simp only [List.mem_append, List.mem_map, hvlans]
  · rw [h.device, h'.device, Device.commit_logs, Device.commit_logs, hnotices]
    rfl

/-- Blocks with the same filled lines ask for the same, and leave the same device. -/
theorem Switch.exists_applyBlock_alike {sw : Switch} (hd : sw.device.WellFormed)
    (tracker : Option Tracker) {a b : Submission} (h : blockLines a.block = blockLines b.block) :
    ∃ xs ys r r' after after', directivesOf a.block = .ok xs ∧ directivesOf b.block = .ok ys ∧
      xs.map Directive.content = ys.map Directive.content ∧
      sw.applyBlock tracker a = .ok (r, after) ∧ sw.applyBlock tracker b = .ok (r', after') ∧
      after.device = after'.device := by
  obtain ⟨xs, t, r, after, hxs, happly, happlies⟩ := Switch.exists_applyBlock hd tracker a
  obtain ⟨ys, t', r', after', hys, happly', happlies'⟩ := Switch.exists_applyBlock hd tracker b
  have hcontent := content_eq_of_blockLines hxs hys h
  have hactions : xs.map (·.action) = ys.map (·.action) := actions_eq_of_content hcontent
  refine ⟨xs, ys, r, r', after, after', hxs, hys, hcontent, happly, happly', ?_⟩
  apply happlies.device_eq hd happlies'
  rw [← touchesFrom_none, ← touchesFrom_none]
  exact touchesFrom_congr hactions

end LeafSwitch
