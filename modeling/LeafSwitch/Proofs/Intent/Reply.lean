import LeafSwitch.Intent.Reply
import LeafSwitch.Proofs.Block.Lines

/-!
# Replies without their fences

Dropping fences also cuts a reply into its lines for display. Where no other line boundary than a
line feed stands inside a line, nothing of the block is changed by that. Where one does, the rest of
the line becomes a line of its own, and may ask for something.
-/

namespace LeafSwitch.Intent

/-- A reply without its fences has the filled lines for display that are no fences. -/
theorem blockLines_withoutFences (text : String) :
    blockLines (withoutFences text) =
      (Text.filled (Text.lines text.toList)).filter fun line =>
        !(['`', '`', '`'].isPrefixOf line) := by
  let kept := (Text.lines text.toList).filter fun line => !isFence line
  have hkept : blockLines (withoutFences text) = Text.filled kept := by
    rw [blockLines, withoutFences, Text.trimmed, String.toList_ofList, Text.filled_pieces_trim]
    by_cases hnil : kept = []
    · change Text.filled (Text.pieces _ (Text.join "\n" (kept.map String.ofList)).toList) = _
      rw [hnil]
      rfl
    · exact congrArg Text.filled (Text.pieces_join rfl hnil fun line hline =>
        Text.not_mem_of_mem_lines (List.mem_filter.mp hline).1)
  have htrimmed : kept.map Text.trim =
      ((Text.lines text.toList).map Text.trim).filter fun line =>
        !(['`', '`', '`'].isPrefixOf line) := by
    rw [List.filter_map]
    rfl
  rw [hkept, Text.filled, Text.filled, htrimmed, List.filter_comm]

/-- Line feeds are the only line boundaries in a reply without its fences. -/
theorem eq_lineFeed_of_mem_withoutFences {text : String} {c : Char}
    (hc : c ∈ (withoutFences text).toList) (hboundary : Text.isLineBoundary c = true) :
    c = '\n' := by
  let kept := (Text.lines text.toList).filter fun line => !isFence line
  let joined := (Text.join "\n" (kept.map String.ofList)).toList
  by_contra hfeed
  have hjoined : c ∈ joined := by
    rw [withoutFences, Text.trimmed, String.toList_ofList] at hc
    exact Text.mem_of_mem_trim hc
  have hkept : kept ≠ [] := by
    intro hnil
    change c ∈ (Text.join "\n" (kept.map String.ofList)).toList at hjoined
    rw [hnil] at hjoined
    exact absurd hjoined List.not_mem_nil
  have hpieces : Text.pieces (· == '\n') joined = kept :=
    Text.pieces_join rfl hkept fun line hline =>
      Text.not_mem_of_mem_lines (List.mem_filter.mp hline).1
  obtain ⟨line, hline, hmem⟩ := Text.exists_mem_pieces (p := (· == '\n')) hjoined
    (beq_eq_false_iff_ne.mpr hfeed)
  rw [hpieces] at hline
  have hnone := Text.not_boundary_of_mem_lines (List.mem_filter.mp hline).1 c hmem
  exact Bool.false_ne_true (hnone.symm.trans hboundary)

/-- A reply without its fences has the same lines for display as a block. -/
theorem linesOf_withoutFences {text : String} (hne : withoutFences text ≠ "") :
    Text.linesOf (withoutFences text) =
      (Text.pieces (· == '\n') (withoutFences text).toList).map String.ofList := by
  have hlist : (withoutFences text).toList ≠ [] := by
    rwa [ne_eq, String.toList_eq_nil_iff]
  have hlast := List.getLast?_eq_some_getLast hlist
  have hend : (withoutFences text).toList.getLast hlist ≠ '\n' := by
    intro hfeed
    rw [hfeed, withoutFences, Text.trimmed, String.toList_ofList] at hlast
    exact absurd (Text.not_blank_of_getLast?_trim hlast) (by decide)
  have hlines := Text.lines_eq_pieces (fun c hc => eq_lineFeed_of_mem_withoutFences hc) hlast hend
  rw [Text.linesOf, hlines]

/-- No line of a reply without its fences is a fence. -/
theorem isFence_of_mem_withoutFences {text : String} {line : List Char}
    (hline : line ∈ Text.pieces (· == '\n') (withoutFences text).toList) :
    isFence line = false := by
  rw [isFence]
  by_cases hblank : Text.trim line = []
  · rw [hblank]
    rfl
  · have hfilled : Text.trim line ∈ blockLines (withoutFences text) := by
      refine List.mem_filter.mpr ⟨List.mem_map_of_mem hline, ?_⟩
      rwa [Bool.not_eq_true', List.isEmpty_eq_false_iff]
    rw [blockLines_withoutFences] at hfilled
    simpa only [Bool.not_eq_true'] using (List.mem_filter.mp hfilled).2

/-- A reply without fence lines has the filled lines for display. -/
theorem blockLines_withoutFences_of_no_fence {text : String}
    (hfence : ∀ line ∈ Text.filled (Text.lines text.toList),
      ['`', '`', '`'].isPrefixOf line = false) :
    blockLines (withoutFences text) = Text.filled (Text.lines text.toList) := by
  rw [blockLines_withoutFences, List.filter_eq_self]
  intro line hline
  rw [hfence line hline]
  rfl

/-- A reply without fence lines, and without other line boundaries than line feeds inside its lines,
asks for the same with its fences dropped, on the same lines, and leaves the same device. -/
theorem withoutFences_keeps_block {sw : Switch} (hd : sw.device.WellFormed) {text : String}
    (hfence : ∀ line ∈ Text.pieces (· == '\n') text.toList, isFence line = false)
    (hboundary : ∀ line ∈ Text.pieces (· == '\n') text.toList, ∀ c ∈ Text.trim line,
      Text.isLineBoundary c = false)
    (tracker : Option Tracker) (source : String) (intent : Option String) :
    ∃ xs ys r r' after after', directivesOf (withoutFences text) = .ok xs ∧
      directivesOf text = .ok ys ∧ xs.map Directive.content = ys.map Directive.content ∧
      sw.applyBlock tracker ⟨withoutFences text, source, intent⟩ = .ok (r, after) ∧
      sw.applyBlock tracker ⟨text, source, intent⟩ = .ok (r', after') ∧
      after.device = after'.device := by
  have hlines : Text.filled (Text.lines text.toList) = blockLines text :=
    Text.filled_lines_eq_filled_pieces hboundary
  have hnofence : ∀ line ∈ Text.filled (Text.lines text.toList),
      ['`', '`', '`'].isPrefixOf line = false := by
    intro line hline
    rw [hlines] at hline
    obtain ⟨raw, hraw, rfl⟩ := List.mem_map.mp (List.mem_filter.mp hline).1
    exact hfence raw hraw
  have hsame : blockLines (withoutFences text) = blockLines text := by
    rw [blockLines_withoutFences_of_no_fence hnofence, hlines]
  exact Switch.exists_applyBlock_alike hd tracker (a := ⟨withoutFences text, source, intent⟩)
    (b := ⟨text, source, intent⟩) hsame

/-- Returns in front of line feeds, blanks around lines and remarks do no harm. -/
theorem withoutFences_keeps_block_twoPorts :
    let text := "! two lines follow\r\n\x0c interface et1 \r\n\tdescription ``` core\r\n\r\n"
    ∃ xs ys r r' after after', directivesOf (withoutFences text) = .ok xs ∧
      directivesOf text = .ok ys ∧ xs.map Directive.content = ys.map Directive.content ∧
      Switch.applyBlock ⟨Device.twoPorts, Site.quiet⟩ none ⟨withoutFences text, "gemini", none⟩ =
        .ok (r, after) ∧
      Switch.applyBlock ⟨Device.twoPorts, Site.quiet⟩ none ⟨text, "gemini", none⟩ =
        .ok (r', after') ∧
      after.device = after'.device := by
  intro text
  have hboundary : ∀ line ∈ Text.pieces (· == '\n') text.toList, ∀ c ∈ Text.trim line,
      Text.isLineBoundary c = false := by
    have hall : ((Text.pieces (· == '\n') text.toList).all fun line =>
        (Text.trim line).all fun c => !Text.isLineBoundary c) = true := by decide +kernel
    intro line hline c hc
    have hc' := List.all_eq_true.mp (List.all_eq_true.mp hall line hline) c hc
    rwa [Bool.not_eq_true'] at hc'
  exact withoutFences_keeps_block (by decide) (by decide +kernel) hboundary none "gemini" none

/-- A form feed inside a description cuts it in two, and the rest of it takes a port out of service:
dropping fences can change what a reply without fences asks for. -/
theorem withoutFences_cuts_description :
    let text := "interface et1\ndescription Rack\x0cshutdown"
    (∀ line ∈ Text.pieces (· == '\n') text.toList, isFence line = false) ∧
      directivesOf text = .ok
        [⟨.enter "et1", "interface et1", 1⟩,
          ⟨.describe "Rack\x0cshutdown", "description Rack\x0cshutdown", 2⟩] ∧
      directivesOf (withoutFences text) = .ok
        [⟨.enter "et1", "interface et1", 1⟩, ⟨.describe "Rack", "description Rack", 2⟩,
          ⟨.shutdown, "shutdown", 3⟩] := by
  decide +kernel

end LeafSwitch.Intent
