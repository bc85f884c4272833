import LeafSwitch.Proofs.Console.Tasks
import LeafSwitch.Proofs.Intent.Reply

/-!
# What is shown is what is applied

The console shows a block line by line before it applies it. Showing cuts a text at every line
boundary, applying cuts it at line feeds alone; a reply without its fences has no other boundaries
than line feeds, and none at its end, so that both come to the same lines.
-/

namespace LeafSwitch

/-- The directives of a block are those of the lines that are shown of it. -/
structure ReadAsShown (block : String) (directives : List Directive) : Prop where
  /-- The directives are read. -/
  read : directivesOf block = .ok directives
  /-- The lines shown are those that the block is cut into. -/
  lines : Text.linesOf block = (Text.pieces (· == '\n') block.toList).map String.ofList
  /-- The directives are the lines shown that hold more than blanks, trimmed, in their places. -/
  places : directives.map (fun x => (x.number, x.line)) = placed 1 (Text.linesOf block)
  /-- No line shown is a fence. -/
  noFence : ∀ line ∈ Text.linesOf block, Intent.isFence line.toList = false

namespace ReadAsShown

/-- There are as many directives as lines shown that hold more than blanks. -/
theorem length_eq {block : String} {directives : List Directive}
    (h : ReadAsShown block directives) :
    directives.length =
      ((Text.linesOf block).filter fun line => !(Text.trimmed line).isEmpty).length := by
  rw [← length_placed 1, ← h.places, List.length_map]

/-- A reply without its fences is read as it is shown. -/
theorem of_withoutFences {text : String} (hne : Intent.withoutFences text ≠ "") :
    ∃ directives, ReadAsShown (Intent.withoutFences text) directives := by
  obtain ⟨directives, hread, _⟩ := exists_directivesOf (Intent.withoutFences text)
  have hlines := Intent.linesOf_withoutFences hne
  refine ⟨directives, hread, hlines, ?_, ?_⟩
  · rw [hlines]
    exact directivesFrom_places hread
  · intro line hline
    rw [hlines] at hline
    obtain ⟨raw, hraw, rfl⟩ := List.mem_map.mp hline
    rw [String.toList_ofList]
    exact Intent.isFence_of_mem_withoutFences hraw

end ReadAsShown

namespace Console

/-- A console that has the block for a request shows it and applies it to the switch. -/
theorem exists_finish_block (c : Console) (intent block : String) (asked : Device) :
    ∃ told, (c.finish (.block intent asked) (.ok block)).output =
        c.output ++ (announcement block ++ told) ∧
      ∀ report switch,
        c.switch.applyBlock c.tracker ⟨block, "gemini", some intent⟩ = .ok (report, switch) →
        (c.finish (.block intent asked) (.ok block)).switch = switch ∧
          told = report.summary ++ "\n" := by
  simp only [finish, applyBlock_eq]
  cases c.switch.applyBlock c.tracker ⟨block, "gemini", some intent⟩ with
  | error e =>
    refine ⟨"", ?_, ?_⟩
    · rw [String.append_empty]
      rfl
    · intro report switch h
      cases h
  | ok outcome =>
    refine ⟨outcome.1.summary ++ "\n", rfl, fun report switch h => ?_⟩
    rw [Except.ok.inj h]
    exact ⟨rfl, rfl⟩

/-- What is shown is what is applied: with a reply that is more than fences, the console shows the
lines that are worked through, each indented by two spaces, and the report that it tells is on as
many directives as lines shown hold more than blanks. -/
theorem shows_what_it_applies (c : Console) (intent : String) (asked : Device) {text : String}
    (hne : Intent.withoutFences text ≠ "") :
    let block := Intent.withoutFences text
    let after := c.finish (.block intent asked) (.ok block)
    ∃ directives told, ReadAsShown block directives ∧
      after.output = c.output ++
        ("Suggested Configuration:\n" ++
          String.join ((Text.linesOf block).map fun line => "  " ++ line ++ "\n") ++
          "Applying configuration...\n" ++ told) ∧
      (c.switch.device.WellFormed → ∃ report switch,
        c.switch.applyBlock c.tracker ⟨block, "gemini", some intent⟩ = .ok (report, switch)) ∧
      ∀ report switch,
        c.switch.applyBlock c.tracker ⟨block, "gemini", some intent⟩ = .ok (report, switch) →
        after.switch = switch ∧ told = report.summary ++ "\n" ∧
          report.lines =
            ((Text.linesOf block).filter fun line => !(Text.trimmed line).isEmpty).length := by
  intro block after
  obtain ⟨directives, hshown⟩ := ReadAsShown.of_withoutFences hne
  obtain ⟨told, houtput, happlied⟩ := c.exists_finish_block intent block asked
  refine ⟨directives, told, hshown, houtput, ?_, ?_⟩
  · intro hd
    obtain ⟨_, _, report, switch, _, happly, _⟩ :=
      Switch.exists_applyBlock hd c.tracker ⟨block, "gemini", some intent⟩
    exact ⟨report, switch, happly⟩
  · intro report switch happly
    obtain ⟨hswitch, htold⟩ := happlied report switch happly
    have hcount := Switch.lines_of_applyBlock happly hshown.read
    rw [hshown.length_eq] at hcount
    exact ⟨hswitch, htold, hcount⟩

/-- Fences, a form feed and a line separator are gone from the block that is shown, and the blank
lines in it are shown without being read. -/
theorem shows_what_it_applies_fenced :
    let c := ofSwitch ⟨Device.twoPorts, Site.quiet⟩ none .remote
    let block := Intent.withoutFences "```eos\r\ninterface et1\x0c\n\n  shutdown \u2028 ```\n"
    let after := c.finish (.block "close it" Device.twoPorts) (.ok block)
    block ≠ "" ∧ placed 1 (Text.linesOf block) = [(1, "interface et1"), (4, "shutdown")] ∧
      ∃ directives told, ReadAsShown block directives ∧
        after.output = c.output ++
          ("Suggested Configuration:\n" ++
            String.join ((Text.linesOf block).map fun line => "  " ++ line ++ "\n") ++
            "Applying configuration...\n" ++ told) ∧
        (c.switch.device.WellFormed → ∃ report switch,
          c.switch.applyBlock c.tracker ⟨block, "gemini", some "close it"⟩ =
            .ok (report, switch)) ∧
        ∀ report switch,
          c.switch.applyBlock c.tracker ⟨block, "gemini", some "close it"⟩ =
            .ok (report, switch) →
          after.switch = switch ∧ told = report.summary ++ "\n" ∧
            report.lines =
              ((Text.linesOf block).filter fun line => !(Text.trimmed line).isEmpty).length := by
  intro c block after
  have hne : block ≠ "" := by decide +kernel
  exact ⟨hne, by decide +kernel, shows_what_it_applies c "close it" Device.twoPorts hne⟩

end Console

end LeafSwitch
