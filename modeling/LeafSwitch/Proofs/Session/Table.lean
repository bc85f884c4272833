import LeafSwitch.Proofs.Seed.Vlans
import LeafSwitch.Proofs.Session.Showable
import LeafSwitch.Proofs.Text.Columns
import Mathlib.Algebra.BigOperators.Group.List.Basic

/-!
# The table of interfaces

The table has two lines above the rows of the interfaces. A row takes one line unless the name or
the description holds line feeds. Lines and blocks bring in none: they change no name, and what a
block describes an interface with is cut out of a line. So it is the seed that decides whether the
rows stay rows. The first columns of a row are those of the name, which is not cut where it is too
long for them.
-/

namespace LeafSwitch

open Text (MadeOfCodes codesOf column padRight pieces size)

/-! ### Rows -/

/-- The line feeds in the texts of an interface. -/
def Interface.feeds (i : Interface) : Nat :=
  i.name.toList.count '\n' + i.description.toList.count '\n'

/-- The texts of an interface are on one line. -/
structure Interface.OnOneLine (i : Interface) : Prop where
  /-- The name holds no line feed. -/
  name : '\n' ∉ i.name.toList
  /-- The description holds none. -/
  description : '\n' ∉ i.description.toList

/-- Texts on one line hold no line feed. -/
theorem Interface.OnOneLine.feeds_eq {i : Interface} (h : i.OnOneLine) : i.feeds = 0 := by
  rw [feeds, List.count_eq_zero_of_not_mem h.name, List.count_eq_zero_of_not_mem h.description]

namespace Command

/-- A row holds the line feeds of the name and the description. -/
theorem count_tableRow (i : Interface) : (tableRow i).toList.count '\n' = i.feeds := by
  have hspaces : ∀ n, (Text.spaces n).toList.count '\n' = 0 := by
    intro n
    rw [Text.spaces, String.toList_ofList, List.count_replicate]
    rfl
  have hstatus : i.status.keyword.toList.count '\n' = 0 := by
    cases i.status <;> rfl
  have hprotocol : (if i.protocolUp then "up" else "down").toList.count '\n' = 0 := by
    split <;> rfl
  have hgap : "  ".toList.count '\n' = 0 := rfl
  simp only [tableRow, padRight, String.toList_append, List.count_append, hspaces, hstatus,
    hprotocol, hgap, Interface.feeds, Nat.add_zero]

/-- The lines of the table are two, and those of each row. -/
theorem pieces_table (d : Device) :
    pieces (· == '\n') (table d).toList =
      pieces (· == '\n') tableHead.toList ++
        d.interfaces.flatMap fun i => pieces (· == '\n') (tableRow i).toList := by
  rw [table, Text.pieces_join_eq_flatMap rfl (List.cons_ne_nil _ _), List.flatMap_cons,
    List.flatMap_map]

/-- The head of the table is two lines. -/
theorem length_pieces_tableHead : (pieces (· == '\n') tableHead.toList).length = 2 := by
  rw [tableHead, Text.pieces_join_eq_flatMap rfl (List.cons_ne_nil _ _)]
  decide +kernel

/-- The table has two lines more than interfaces, and one more for each line feed in their texts. -/
theorem length_pieces_table (d : Device) :
    (pieces (· == '\n') (table d).toList).length =
      d.interfaces.length + 2 + (d.interfaces.map Interface.feeds).sum := by
  have hrows : ∀ interfaces : List Interface,
      (interfaces.flatMap fun i => pieces (· == '\n') (tableRow i).toList).length =
        interfaces.length + (interfaces.map Interface.feeds).sum := by
    intro interfaces
    induction interfaces with
    | nil => rfl
    | cons i rest ih =>
      have hrow : (pieces (· == '\n') (tableRow i).toList).length = i.feeds + 1 := by
        rw [Text.length_pieces, ← count_tableRow]
        rfl
      rw [List.flatMap_cons, List.length_append, hrow, ih, List.length_cons, List.map_cons,
        List.sum_cons]
      omega
  rw [pieces_table, List.length_append, length_pieces_tableHead, hrows]
  omega

/-- The row of an interface with its texts on one line is one line. -/
theorem pieces_tableRow {i : Interface} (h : i.OnOneLine) :
    pieces (· == '\n') (tableRow i).toList = [(tableRow i).toList] := by
  have hcount := count_tableRow i
  rw [h.feeds_eq, List.count_eq_zero] at hcount
  refine Text.pieces_of_forall_not fun c hc => beq_eq_false_iff_ne.mpr ?_
  rintro rfl
  exact hcount hc

/-- Where the texts of all interfaces are on one line, each of them has its line behind the head. -/
theorem getElem?_pieces_table {d : Device} (h : ∀ i ∈ d.interfaces, i.OnOneLine) {k : Nat}
    {i : Interface} (hi : d.interfaces[k]? = some i) :
    (pieces (· == '\n') (table d).toList)[k + 2]? = some (tableRow i).toList := by
  have hrows : (d.interfaces.flatMap fun i => pieces (· == '\n') (tableRow i).toList) =
      d.interfaces.map fun i => (tableRow i).toList := by
    rw [← List.flatMap_singleton' (d.interfaces.map _), List.flatMap_map]
    exact List.flatMap_congr fun j hj => pieces_tableRow (h j hj)
  rw [pieces_table, hrows, List.getElem?_append_right, length_pieces_tableHead,
    Nat.add_sub_cancel, List.getElem?_map, hi, Option.map_some]
  rw [length_pieces_tableHead]
  exact Nat.le_add_left 2 k

/-- Behind the name a row goes on with two spaces and the column of the state. -/
theorem exists_codesOf_tableRow {i : Interface} (h : MadeOfCodes i.name) :
    ∃ more, codesOf (tableRow i) =
      codesOf (padRight 14 i.name) ++ ([0x20, 0x20] ++ (column 10 i.status.keyword ++ more)) := by
  have hgap : Text.Ascii "  " := by decide
  have hgapCodes : codesOf "  " = [0x20, 0x20] := by decide
  have hkeyword : Text.Ascii i.status.keyword ∧ size i.status.keyword ≤ 10 := by
    cases i.status <;> decide
  have hstatus := hkeyword.1.madeOfCodes
  refine ⟨codesOf ("  " ++ (padRight 10 (if i.protocolUp then "up" else "down") ++
    ("  " ++ i.description))), ?_⟩
  rw [tableRow]
  simp only [String.append_assoc]
  rw [(h.padRight 14).codesOf_append, hgap.madeOfCodes.codesOf_append,
    (hstatus.padRight 10).codesOf_append, hgapCodes,
    Text.codesOf_padRight_eq_column hstatus hkeyword.2]

/-- A row begins with the column of the name. -/
theorem take_codesOf_tableRow {i : Interface} (h : MadeOfCodes i.name) :
    (codesOf (tableRow i)).take 14 = column 14 i.name := by
  obtain ⟨more, hmore⟩ := exists_codesOf_tableRow h
  rw [hmore, Text.take_codesOf_padRight h]

/-- A row goes on with two spaces and the column of the state behind a name that is not too wide. -/
theorem take_drop_codesOf_tableRow {i : Interface} (h : MadeOfCodes i.name)
    (hsize : size i.name ≤ 14) :
    ((codesOf (tableRow i)).drop 14).take 12 = [0x20, 0x20] ++ column 10 i.status.keyword := by
  obtain ⟨more, hmore⟩ := exists_codesOf_tableRow h
  rw [hmore, List.drop_left' (Text.length_codesOf_padRight h hsize), ← List.append_assoc]
  refine List.take_left' ?_
  rw [List.length_append, Text.length_column]
  rfl

end Command

/-! ### Single operations -/

/-- The texts of all interfaces are on one line each. -/
def Device.OnOneLine (d : Device) : Prop :=
  ∀ i ∈ d.interfaces, i.OnOneLine

/-- A line of the operator brings no line feed into the texts of interfaces. -/
theorem Switch.interpret_onOneLine {sw : Switch} (h : sw.device.OnOneLine) (line : String) :
    (sw.interpret line).2.device.OnOneLine := by
  rw [sw.interpret_device_eq]
  cases Command.ofLine line with
  | setStatus ref status severity =>
    rw [Command.change?]
    cases hfind : sw.device.find? ref with
    | none => exact h
    | some i =>
      have hi := h i (Device.mem_of_find? hfind)
      intro j hj
      rcases Device.mem_or_of_mem_commit hj with hold | ⟨p, hp, rfl⟩
      · exact h j hold
      · obtain rfl := List.mem_singleton.mp hp
        exact ⟨hi.name, hi.description⟩
  | setHostname name =>
    intro j hj
    rcases Device.mem_or_of_mem_commit hj with hold | ⟨p, hp, rfl⟩
    · exact h j hold
    · exact absurd hp List.not_mem_nil
  | nothing | showInterfaces | showVlans | showVersion | showLog | showOther | configure | help
  | unknown => exact h

/-- The directives of a block stand on single lines of it. -/
theorem lineFeed_not_mem_of_directivesOf {text : String} {block : List Directive}
    (h : directivesOf text = .ok block) {x : Directive} (hx : x ∈ block) :
    '\n' ∉ x.line.toList := by
  intro hfeed
  have hline : x.line ∈ (blockLines text).map String.ofList := by
    rw [blockLines, ← (directivesFrom_spec h).1]
    exact List.mem_map_of_mem hx
  obtain ⟨line, hfilled, heq⟩ := List.mem_map.mp hline
  obtain ⟨raw, hraw, rfl⟩ := List.mem_map.mp (List.mem_filter.mp hfilled).1
  rw [← heq, String.toList_ofList] at hfeed
  exact absurd (Text.mem_of_mem_pieces hraw (Text.mem_of_mem_trim hfeed)).2 (by decide)

/-- A line describes an interface with what stands behind its first space. -/
theorem eq_behindSpace_of_lineAction {line : List Char} {text : String}
    (h : lineAction line = .ok (.describe text)) : text = String.ofList (behindSpace line) := by
  rcases lineAction_cases h with hnone | hnone | ⟨ref, hnone⟩ | ⟨word, hplain⟩
  · cases hnone
  · cases hnone
  · cases hnone
  · rw [plainAction] at hplain
    split_ifs at hplain
    cases hplain
    rfl

/-- The description that actions leave of an interface is its own, or one of them gives it. -/
theorem Interface.settled_description (i : Interface) (actions : List Action) :
    (i.settled actions).description = i.description ∨
      .describe (i.settled actions).description ∈ actions := by
  rw [Interface.settled]
  dsimp only
  cases hlast : (actions.filterMap Action.description?).getLast? with
  | none => exact Or.inl rfl
  | some text =>
    obtain ⟨a, ha, htext⟩ := List.mem_filterMap.mp (List.mem_of_getLast? hlast)
    cases a with
    | describe given =>
      obtain rfl := Option.some.inj htext
      exact Or.inr ha
    | enter | shutdown | noShutdown | accessVlan | exit | comment | ignored => cases htext

/-- A block brings no line feed into the texts of interfaces. -/
theorem Switch.Applies.onOneLine {sw after : Switch} {block : List Directive} {t : Staging}
    {r : Report} (h : sw.Applies block t r after) (hd : sw.device.OnOneLine) {text : String}
    (hblock : directivesOf text = .ok block) : after.device.OnOneLine := by
  intro j hj
  rw [h.interfaces_eq] at hj
  obtain ⟨i, hi, rfl⟩ := List.mem_map.mp hj
  refine ⟨(hd i hi).name, ?_⟩
  rcases i.settled_description (actionsOn i.id (governed sw.device block)) with hown | hgiven
  · rw [hown]
    exact (hd i hi).description
  · obtain ⟨act, hact, haction⟩ := List.mem_map.mp hgiven
    obtain ⟨x, hx, hdescribes⟩ := exists_of_mem_governed (List.mem_of_mem_filter hact)
    have hline := (directivesFrom_spec hblock).2 x hx
    rw [hdescribes, haction] at hline
    rw [eq_behindSpace_of_lineAction hline, String.toList_ofList, behindSpace]
    intro hfeed
    exact lineFeed_not_mem_of_directivesOf hblock hx
      ((List.dropWhile_subset _) (List.mem_of_mem_drop hfeed))

namespace Session

/-- Lines, blocks and samples bring no line feed into the texts of interfaces. -/
theorem onOneLine_of_operate {s t : Session} (hs : s.switch.device.WellFormed)
    (hd : s.switch.device.OnOneLine) {o : Operation} (ho : o.isServed = true)
    (h : s.operate o = .ok t) : t.switch.device.OnOneLine := by
  cases o with
  | line text =>
    obtain rfl := Except.ok.inj h
    exact Switch.interpret_onOneLine hd text
  | block tracker submission =>
    obtain ⟨_, _, _, _, hblock, happly, happlies⟩ :=
      Switch.exists_applyBlock hs tracker submission
    rw [operate, happly] at h
    obtain rfl := Except.ok.inj h
    exact happlies.onOneLine hd hblock
  | sample draws =>
    have hafter : (s.switch.sample draws).2.2.device.OnOneLine := by
      rcases s.switch.sample_device draws with hdevice | ⟨e, hdevice⟩
      · rw [hdevice]
        exact hd
      · rw [hdevice]
        exact hd
    rw [← Except.ok.inj h]
    exact hafter
  | update | note => cases ho

/-- A session of lines, blocks and samples brings no line feed into the texts of interfaces. -/
theorem onOneLine_of_run {s t : Session} (hs : s.switch.device.WellFormed)
    (hd : s.switch.device.OnOneLine) {ops : List Operation}
    (hops : ∀ o ∈ ops, o.isServed = true) (h : s.run ops = .ok t) :
    t.switch.device.OnOneLine := by
  refine (keeps_of_run (p := fun u => u.switch.device.WellFormed ∧ u.switch.device.OnOneLine) ?_
    ⟨hs, hd⟩ hops h).2
  intro u v o hu ho hstep
  exact ⟨wellFormed_of_operate hu.1 hstep, onOneLine_of_operate hu.1 hu.2 ho hstep⟩

/-- Some lines are shown for the interfaces. -/
def ShowsTable (s : Session) (lines : List (List Char)) : Prop :=
  ∃ text, (s.switch.interpret "show interfaces").1 = .ok text ∧
    lines = pieces (· == '\n') text.toList

/-- The interfaces are shown in a table. -/
theorem showsTable_iff {s : Session} {lines : List (List Char)} :
    s.ShowsTable lines ↔ lines = pieces (· == '\n') (Command.table s.switch.device).toList := by
  have hcommand : Command.ofLine "show interfaces" = .showInterfaces := rfl
  have hanswer : (s.switch.interpret "show interfaces").1 =
      (Command.ofLine "show interfaces").answer s.switch.device := rfl
  rw [ShowsTable, hanswer, hcommand, Command.answer]
  constructor
  · rintro ⟨text, htext, rfl⟩
    rw [Except.ok.inj htext]
  · rintro rfl
    exact ⟨_, rfl, rfl⟩

/-- Whatever lines, blocks and samples follow on a device that a seed has started, the interfaces
are shown in two lines and one for each of them, and one more for each line feed in a name or a
description. If the seed has brought in no line feed, there are none, and the row of an interface
begins with the column of its name; the column of the state follows behind two spaces, if the name
is no wider than its column. -/
theorem table_of_seeded_device {s : Site} {data : List (Value × Value)} {sw : Switch}
    (hboot : s.bootSeed data = .ok sw) (window : Telemetry.Window) {ops : List Operation}
    (hops : ∀ o ∈ ops, o.isServed = true) :
    ∃ (last : Session) (lines : List (List Char)), Session.run ⟨sw, window⟩ ops = .ok last ∧
      last.ShowsTable lines ∧
      lines.length = last.switch.device.interfaces.length + 2 +
        (last.switch.device.interfaces.map Interface.feeds).sum ∧
      (sw.device.OnOneLine →
        lines.length = last.switch.device.interfaces.length + 2 ∧
        ∀ (k : Nat) (i : Interface), last.switch.device.interfaces[k]? = some i →
          ∃ row : String, lines[k + 2]? = some row.toList ∧
            (MadeOfCodes i.name → (codesOf row).take 14 = column 14 i.name ∧
              (size i.name ≤ 14 →
                ((codesOf row).drop 14).take 12 =
                  [0x20, 0x20] ++ column 10 i.status.keyword))) := by
  have hgives := Site.gives_of_bootSeed hboot
  obtain ⟨last, hrun, hwf, _⟩ := exists_run (s := ⟨sw, window⟩) hgives.wellFormed ops
  have hlength := Command.length_pieces_table last.switch.device
  refine ⟨last, _, hrun, showsTable_iff.mpr rfl, hlength, fun hseed => ?_⟩
  have hline : last.switch.device.OnOneLine :=
    onOneLine_of_run (s := ⟨sw, window⟩) hgives.wellFormed hseed hops hrun
  have hnone : (last.switch.device.interfaces.map Interface.feeds).sum = 0 := by
    refine List.sum_eq_zero fun n hn => ?_
    obtain ⟨i, hi, rfl⟩ := List.mem_map.mp hn
    exact (hline i hi).feeds_eq
  refine ⟨by rw [hlength, hnone], fun k i hi => ⟨Command.tableRow i, ?_, fun hname => ?_⟩⟩
  · exact Command.getElem?_pieces_table hline hi
  · exact ⟨Command.take_codesOf_tableRow hname, Command.take_drop_codesOf_tableRow hname⟩

/-- The table of the careless seed stays a table while a port is described. -/
theorem table_of_seeded_device_careless :
    ∃ (last : Session) (lines : List (List Char)),
      Session.run ⟨Switch.careless, ⟨2, []⟩⟩ [.line "shutdown et2",
        .block none ⟨"interface et1\ndescription Uplink  to\tcore", "cli", none⟩,
        .sample (.fresh [] [])] = .ok last ∧
      last.ShowsTable lines ∧
      lines.length = last.switch.device.interfaces.length + 2 ∧
      ∀ (k : Nat) (i : Interface), last.switch.device.interfaces[k]? = some i →
        ∃ row : String, lines[k + 2]? = some row.toList ∧
          (MadeOfCodes i.name → (codesOf row).take 14 = column 14 i.name ∧
            (size i.name ≤ 14 →
              ((codesOf row).drop 14).take 12 =
                [0x20, 0x20] ++ column 10 i.status.keyword)) := by
  have hline : Switch.careless.device.OnOneLine := by
    intro i hi
    have hport : i = Device.ethernet1 ∨ i = Device.ethernet2 := by
      simpa only [Switch.careless, List.mem_cons, List.not_mem_nil, or_false] using hi
    rcases hport with rfl | rfl
    · exact ⟨by decide, by decide⟩
    · exact ⟨by decide, by decide⟩
  have hserved : ∀ o ∈ [Operation.line "shutdown et2",
      .block none ⟨"interface et1\ndescription Uplink  to\tcore", "cli", none⟩,
      .sample (.fresh [] [])], o.isServed = true := by decide
  obtain ⟨last, lines, hrun, hshows, -, htable⟩ :=
    table_of_seeded_device Site.bootSeed_careless ⟨2, []⟩ hserved
  exact ⟨last, lines, hrun, hshows, htable hline⟩

end Session

/-- A seed with a name that is too wide for its column, and with a description on two lines. -/
def Seed.crowded : List (Value × Value) :=
  [(.str "hostname", .str "leaf1"), (.str "vlans", .list []),
    (.str "interfaces", .list
      [.map [(.str "id", .str "po1"), (.str "name", .str "Port-Channel1001")],
        .map [(.str "id", .str "et1"), (.str "name", .str "Ethernet1"),
          (.str "description", .str "Uplink\nto core")]])]

/-- The switch that the crowded seed starts. -/
def Switch.crowded : Switch :=
  ⟨⟨"leaf1", [Interface.named "po1" "Port-Channel1001",
        { Interface.named "et1" "Ethernet1" with description := "Uplink\nto core" }], [1],
      [⟨"000000000001", ⟨0⟩, ⟨.info, "System", "System initialization complete"⟩⟩]⟩,
    Site.quiet.advanced⟩

/-- The crowded seed is taken. -/
theorem Site.bootSeed_crowded : Site.quiet.bootSeed Seed.crowded = .ok Switch.crowded := rfl

/-- The interfaces of a device that a seed has started may take more lines than two and one for each
of them, and a name may push the state out of its column. -/
theorem Session.table_of_seeded_device_crowded :
    (¬ ∀ (s : Site) (data : List (Value × Value)) (sw : Switch) (window : Telemetry.Window)
        (lines : List (List Char)), s.bootSeed data = .ok sw →
      Session.ShowsTable ⟨sw, window⟩ lines → lines.length = sw.device.interfaces.length + 2) ∧
    ¬ ∀ (s : Site) (data : List (Value × Value)) (sw : Switch) (window : Telemetry.Window)
        (lines : List (List Char)), s.bootSeed data = .ok sw →
      Session.ShowsTable ⟨sw, window⟩ lines →
      ∀ (k : Nat) (i : Interface), sw.device.interfaces[k]? = some i →
        ∃ row : String, lines[k + 2]? = some row.toList ∧
          (codesOf row).take 26 =
            column 14 i.name ++ ([0x20, 0x20] ++ column 10 i.status.keyword) := by
  constructor
  · intro h
    have hlength := h Site.quiet Seed.crowded Switch.crowded ⟨2, []⟩ _ Site.bootSeed_crowded
      (showsTable_iff.mpr rfl)
    rw [Command.length_pieces_table] at hlength
    revert hlength
    decide +kernel
  · intro h
    let port := Interface.named "po1" "Port-Channel1001"
    obtain ⟨row, hrow, hcolumns⟩ := h Site.quiet Seed.crowded Switch.crowded ⟨2, []⟩ _
      Site.bootSeed_crowded (showsTable_iff.mpr rfl) 0 port rfl
    have hline : port.OnOneLine := ⟨by decide, by decide⟩
    have hshown : (pieces (· == '\n') (Command.table Switch.crowded.device).toList)[2]? =
        some (Command.tableRow port).toList := by
      have hhead := Command.length_pieces_tableHead
      rw [Command.pieces_table, List.getElem?_append_right hhead.le, hhead,
        Switch.crowded, List.flatMap_cons, Command.pieces_tableRow hline]
      rfl
    rw [hshown] at hrow
    obtain rfl := String.toList_inj.mp (Option.some.inj hrow)
    revert hcolumns
    decide +kernel

end LeafSwitch
