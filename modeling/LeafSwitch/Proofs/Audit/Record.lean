import LeafSwitch.Audit.Record
import LeafSwitch.Proofs.Json.Value

/-!
# Audit records in JSON

A record whose fields are plain is read back from its line of JSON, and the line is printable ASCII,
so nothing in it ends a line. Whatever texts a record that is filed holds, a record is read where it
is written, which differs from it at most in halves that have been joined.
-/

namespace LeafSwitch.Audit.Record

/-- The fields of a record are plain, where `room` tells how deep they may be. -/
def IsPlain (room : Nat) (r : Record) : Prop :=
  ∀ p ∈ r.fields, Json.Plain room p.2

/-- The fields have names of their own. -/
theorem nodup_fields (r : Record) : (r.fields.map (·.1)).Nodup := by
  have hnames : r.fields.map (·.1) = requiredFields ++ optionalFields := rfl
  rw [hnames]
  decide

/-- The value under a text key is found where the text is. -/
theorem entry?_named (entries : List (String × Value)) (name : String) :
    Value.entry? (Json.named entries) name = entries.lookup name := by
  induction entries with
  | nil => rfl
  | cons p rest ih =>
    obtain ⟨key, v⟩ := p
    have hkey : (Value.str key == Value.str name) = (name == key) := by
      rw [Bool.eq_iff_iff, beq_iff_eq, beq_iff_eq, Value.str.injEq, eq_comm]
    rw [Value.entry?] at ih ⊢
    rw [Json.named, List.map_cons, List.find?_cons]
    dsimp only
    rw [hkey, List.lookup_cons, ← ih]
    cases name == key <;> rfl

/-- No field is unknown and none is missing, so a record is made of its fields again. -/
theorem ofFields_fields (r : Record) : ofFields (Json.named r.fields) = .ok r := by
  have hnames : (Json.named r.fields).map (·.1) =
      (requiredFields ++ optionalFields).map Value.str := rfl
  have htexts : ((Json.named r.fields).map (·.1)).find? (!·.isText) = none := by
    rw [hnames, List.find?_eq_none]
    intro name hname
    obtain ⟨s, _, rfl⟩ := List.mem_map.mp hname
    exact Bool.false_ne_true
  have hknown : ((Json.named r.fields).map (·.1)).find? (!isKnown ·) = none := by
    rw [hnames, List.find?_eq_none]
    intro name hname
    obtain ⟨s, hs, rfl⟩ := List.mem_map.mp hname
    rw [Bool.not_eq_true, Bool.not_eq_false', isKnown, List.contains_iff_mem]
    exact hs
  have hmissing : (requiredFields.filter fun name =>
      (Value.entry? (Json.named r.fields) name).isNone) = [] := by
    rw [List.filter_eq_nil_iff]
    intro name hname
    have hsome : (r.fields.lookup name).isNone = false := by
      rw [requiredFields] at hname
      simp only [List.mem_cons, List.not_mem_nil, or_false] at hname
      rcases hname with rfl | rfl | rfl | rfl | rfl | rfl <;> rfl
    rw [entry?_named, hsome]
    exact Bool.false_ne_true
  rw [ofFields]
  dsimp only
  rw [htexts, hknown, hmissing, List.isEmpty_nil, Bool.not_true, if_neg Bool.false_ne_true]
  simp only [entry?_named]
  rfl

/-- The line of a record is the JSON of its fields. -/
theorem plain_fields {room : Nat} {r : Record} (h : r.IsPlain room) :
    Json.Plain (room + 1) (.map (Json.named r.fields)) := by
  have hnames : ∀ p ∈ r.fields, Json.Settled p.1 := by
    intro p hp
    have hname : p.1 ∈ requiredFields ++ optionalFields :=
      List.mem_map_of_mem (f := Prod.fst) hp
    have hwhole : ∀ name ∈ requiredFields ++ optionalFields, Text.mark ∉ name.toList := by
      decide
    exact Json.settled_of_whole (Text.whole_of_mark_not_mem (hwhole p.1 hname))
  exact Json.Plain.map r.nodup_fields hnames h

/-- A record is read back from its line. -/
theorem ofJson_toJson {room : Nat} {r : Record} (h : r.IsPlain room) :
    ofJson (room + 1) r.toJson = .ok r := by
  have hread : Json.read (room + 1) r.toJson = .ok (.map (Json.named r.fields)) :=
    (plain_fields h).read_render
  rw [ofJson, hread]
  exact ofFields_fields r

/-- The line of a record is printable ASCII. -/
theorem printable_toJson {room : Nat} {r : Record} (h : r.IsPlain room) :
    ∀ c ∈ r.toJson.toList, Json.Printable c :=
  (plain_fields h).printable

/-- The line of a record is in braces. -/
theorem exists_toJson (r : Record) : ∃ cs, r.toJson.toList = '\x7b' :: (cs ++ ['\x7d']) :=
  ⟨_, Json.written_map r.fields⟩

/-! ### Records of the declared kinds -/

/-- A text of characters. -/
def IsText (v : Value) : Prop :=
  ∃ s, Text.Whole s ∧ v = .str s

/-- A whole number that can be written out. -/
def IsNumber (v : Value) : Prop :=
  ∃ n : Int, n.natAbs < Value.shownLimit ∧ v = .int n

/-- A sequence of any length whose items are of one kind. -/
def IsListOf (kind : Value → Prop) (v : Value) : Prop :=
  ∃ items, (∀ item ∈ items, kind item) ∧ v = .list items

/-- The fields of a record hold what they are declared to hold. -/
structure IsDeclared (r : Record) : Prop where
  /-- The time is a text. -/
  timestamp : IsText r.timestamp
  /-- The name of the device is a text. -/
  hostname : IsText r.hostname
  /-- The kind of apply is a text. -/
  operation : IsText r.operation
  /-- The source of the block is a text. -/
  source : IsText r.source
  /-- The directives are counted. -/
  lines : IsNumber r.lines
  /-- The directives applied are counted. -/
  directivesApplied : IsNumber r.directivesApplied
  /-- The interfaces touched are listed by their names. -/
  interfacesChanged : IsListOf IsText r.interfacesChanged
  /-- The new VLANs are listed. -/
  vlansCreated : IsListOf IsNumber r.vlansCreated
  /-- The block is a text. -/
  block : IsText r.block
  /-- What was asked for is nothing or a text. -/
  intent : r.intent = .null ∨ IsText r.intent

/-- Texts are plain at any depth. -/
theorem IsText.plain {v : Value} (h : IsText v) (room : Nat) : Json.Plain room v := by
  obtain ⟨s, hs, rfl⟩ := h
  exact .str (Json.settled_of_whole hs)

/-- Numbers are plain at any depth. -/
theorem IsNumber.plain {v : Value} (h : IsNumber v) (room : Nat) : Json.Plain room v := by
  obtain ⟨n, hn, rfl⟩ := h
  exact .int hn

/-- A list is plain one level above its items. -/
theorem IsListOf.plain {kind : Value → Prop} {room : Nat}
    (hkind : ∀ item, kind item → Json.Plain room item) {v : Value} (h : IsListOf kind v) :
    Json.Plain (room + 1) v := by
  obtain ⟨items, hitems, rfl⟩ := h
  exact .list fun item hitem => hkind item (hitems item hitem)

/-- A record whose fields are of the declared kinds is plain, where a sequence has room. -/
theorem IsDeclared.isPlain {r : Record} (h : r.IsDeclared) (room : Nat) :
    r.IsPlain (room + 1) := by
  intro p hp
  rw [fields] at hp
  simp only [List.mem_cons, List.not_mem_nil, or_false] at hp
  rcases hp with rfl | rfl | rfl | rfl | rfl | rfl | rfl | rfl | rfl | rfl
  · exact h.timestamp.plain _
  · exact h.hostname.plain _
  · exact h.operation.plain _
  · exact h.source.plain _
  · exact h.lines.plain _
  · exact h.directivesApplied.plain _
  · exact IsListOf.plain (fun _ hitem => hitem.plain _) h.interfacesChanged
  · exact IsListOf.plain (fun _ hitem => hitem.plain _) h.vlansCreated
  · exact h.block.plain _
  · rcases h.intent with hnone | htext
    · dsimp only
      rw [hnone]
      exact .null
    · exact htext.plain _

/-- Every record whose fields are of the declared kinds is written as one line of printable ASCII,
and read back from it as it was, wherever a sequence in a mapping can be read. -/
theorem IsDeclared.line_reads_back {r : Record} (h : r.IsDeclared) {room : Nat}
    (hroom : 2 ≤ room) :
    (∀ c ∈ r.toJson.toList, Json.Printable c ∧ Text.isLineBoundary c = false) ∧
      ofJson room r.toJson = .ok r := by
  obtain ⟨inner, rfl⟩ := Nat.exists_eq_add_of_le' hroom
  refine ⟨fun c hc => ?_, ofJson_toJson (h.isPlain inner)⟩
  have hprintable := printable_toJson (h.isPlain inner) c hc
  exact ⟨hprintable, hprintable.not_lineBoundary⟩

/-- A record of what can go wrong in a line: quotes, backslashes, line breaks of all sorts,
controls, a character beyond the basic plane, and numbers of either sign. -/
def tangled : Record where
  timestamp := .str "2025-01-01T10:00:00+00:00"
  hostname := .str "leaf\\\"1\\"
  operation := .str ""
  source := .str "\x00\x1b\x7f"
  lines := .int 12
  directivesApplied := .int (-7)
  interfacesChanged := .list [.str "Ethernet1", .str "\\u0041", .str "𝔼t\u2028\u0085"]
  vlansCreated := .list [.int 0, .int 4294967296]
  block := .str "interface et1\r\n\tdescription \"a\\\\\"\n"
  intent := .null

/-- The tangled record is of the declared kinds. -/
theorem tangled_isDeclared : tangled.IsDeclared := by
  have htext : ∀ s : String, Text.mark ∉ s.toList → IsText (.str s) := fun s hs =>
    ⟨s, Text.whole_of_mark_not_mem hs, rfl⟩
  have hlimit : 4294967297 < Value.shownLimit := by decide +kernel
  have hnumber : ∀ n : Int, n.natAbs < 4294967297 → IsNumber (.int n) := fun n hn =>
    ⟨n, Nat.lt_trans hn hlimit, rfl⟩
  have hnames : ∀ item ∈ [Value.str "Ethernet1", .str "\\u0041", .str "𝔼t\u2028\u0085"],
      IsText item := by
    simp only [List.forall_mem_cons, List.not_mem_nil, false_implies, implies_true, and_true]
    exact ⟨htext _ (by decide), htext _ (by decide), htext _ (by decide)⟩
  have hvlans : ∀ item ∈ [Value.int 0, .int 4294967296], IsNumber item := by
    simp only [List.forall_mem_cons, List.not_mem_nil, false_implies, implies_true, and_true]
    exact ⟨hnumber _ (by decide), hnumber _ (by decide)⟩
  exact ⟨htext _ (by decide), htext _ (by decide), htext _ (by decide), htext _ (by decide),
    hnumber _ (by decide), hnumber _ (by decide), ⟨_, hnames, rfl⟩, ⟨_, hvlans, rfl⟩,
    htext _ (by decide), Or.inl rfl⟩

/-- The tangled record is written as one line and read back. -/
theorem line_reads_back_tangled :
    tangled.IsDeclared ∧ 2 ≤ 2 ∧
      (∀ c ∈ tangled.toJson.toList, Json.Printable c ∧ Text.isLineBoundary c = false) ∧
      ofJson 2 tangled.toJson = .ok tangled :=
  ⟨tangled_isDeclared, le_rfl, tangled_isDeclared.line_reads_back le_rfl⟩

/-! ### Records as they are read -/

/-- What a field is filed with by itself, or in a sequence: any text, or a number that can be
written out. -/
inductive IsItem : Value → Prop where
  /-- Any text is filed. -/
  | text (s : String) : IsItem (.str s)
  /-- Numbers are filed that can be written out. -/
  | number {n : Int} (h : n.natAbs < Value.shownLimit) : IsItem (.int n)

/-- What a field is filed with. -/
inductive IsField : Value → Prop where
  /-- A field may be filed with nothing. -/
  | nothing : IsField .null
  /-- A field may be filed with a text or a number. -/
  | single {v : Value} (h : IsItem v) : IsField v
  /-- A field may be filed with a sequence of them. -/
  | several {items : List Value} (h : ∀ v ∈ items, IsItem v) : IsField (.list items)

/-- What is read where an item is written. -/
def rereadItem : Value → Value
  | .str s => .str (Json.reread s)
  | v => v

/-- What is read where a field is written. -/
def rereadField : Value → Value
  | .list items => .list (items.map rereadItem)
  | v => rereadItem v

/-- The record that is read where a record is written. -/
def reread (r : Record) : Record where
  timestamp := rereadField r.timestamp
  hostname := rereadField r.hostname
  operation := rereadField r.operation
  source := rereadField r.source
  lines := rereadField r.lines
  directivesApplied := rereadField r.directivesApplied
  interfacesChanged := rereadField r.interfacesChanged
  vlansCreated := rereadField r.vlansCreated
  block := rereadField r.block
  intent := rereadField r.intent

theorem fields_reread (r : Record) :
    r.reread.fields = r.fields.map fun p => (p.1, rereadField p.2) := rfl

/-- An item that has been read is written as it was written before. -/
theorem written_rereadItem (v : Value) : Json.written (rereadItem v) = Json.written v := by
  cases v with
  | str s => exact congrArg String.toList (Json.renderString_reread s)
  | null | bool | int | float | list | map | other => rfl

/-- A field that has been read is written as it was written before. -/
theorem written_rereadField (v : Value) : Json.written (rereadField v) = Json.written v := by
  cases v with
  | list items =>
    have hitems : (items.map rereadItem).map Json.written = items.map Json.written := by
      rw [List.map_map]
      exact List.map_congr_left fun item _ => written_rereadItem item
    rw [rereadField, Json.written_list, Json.written_list, hitems]
  | str s => exact written_rereadItem (.str s)
  | null | bool | int | float | map | other => rfl

/-- A record that has been read is written as it was written before. -/
theorem toJson_reread (r : Record) : r.reread.toJson = r.toJson := by
  have hentries : r.reread.fields.map Json.writtenEntry = r.fields.map Json.writtenEntry := by
    rw [fields_reread, List.map_map]
    refine List.map_congr_left fun p _ => ?_
    rw [Function.comp_apply, Json.writtenEntry, Json.writtenEntry, written_rereadField]
  have hline : ∀ s : Record, s.toJson.toList =
      '\x7b' :: (Json.spaced (s.fields.map Json.writtenEntry) ++ ['\x7d']) :=
    fun s => Json.written_map s.fields
  rw [← String.toList_inj, hline, hline, hentries]

/-- What is read where an item is written is plain. -/
theorem IsItem.plain {v : Value} (h : IsItem v) (room : Nat) : Json.Plain room (rereadItem v) := by
  cases h with
  | text s => exact .str (Json.settled_reread s)
  | number hn => exact .int hn

/-- What is read where a field is written is plain one level above. -/
theorem IsField.plain {v : Value} (h : IsField v) (room : Nat) :
    Json.Plain (room + 1) (rereadField v) := by
  cases h with
  | nothing => exact .null
  | single hitem =>
    cases hitem with
    | text s => exact .str (Json.settled_reread s)
    | number hn => exact .int hn
  | several hitems =>
    refine .list fun w hw => ?_
    obtain ⟨v, hv, rfl⟩ := List.mem_map.mp hw
    exact (hitems v hv).plain room

/-- Where a record is written, the record that differs from it in joined halves is read. -/
theorem ofJson_toJson_of_isField {r : Record} (h : ∀ p ∈ r.fields, IsField p.2) (room : Nat) :
    r.reread.IsPlain (room + 1) ∧ ofJson (room + 2) r.toJson = .ok r.reread := by
  have hplain : r.reread.IsPlain (room + 1) := by
    intro p hp
    rw [fields_reread] at hp
    obtain ⟨q, hq, rfl⟩ := List.mem_map.mp hp
    exact (h q hq).plain _
  refine ⟨hplain, ?_⟩
  rw [← toJson_reread]
  exact ofJson_toJson hplain

theorem IsText.isItem {v : Value} (h : IsText v) : IsItem v := by
  obtain ⟨s, _, rfl⟩ := h
  exact .text s

theorem IsNumber.isItem {v : Value} (h : IsNumber v) : IsItem v := by
  obtain ⟨n, hn, rfl⟩ := h
  exact .number hn

theorem IsListOf.isField {kind : Value → Prop} (hkind : ∀ {item}, kind item → IsItem item)
    {v : Value} (h : IsListOf kind v) : IsField v := by
  obtain ⟨items, hitems, rfl⟩ := h
  exact .several fun item hitem => hkind (hitems item hitem)

/-- A record of the declared kinds is read as it is. -/
theorem IsDeclared.reread_eq {r : Record} (h : r.IsDeclared) : r.reread = r := by
  have hfields : ∀ p ∈ r.fields, IsField p.2 := by
    intro p hp
    rw [fields] at hp
    simp only [List.mem_cons, List.not_mem_nil, or_false] at hp
    rcases hp with rfl | rfl | rfl | rfl | rfl | rfl | rfl | rfl | rfl | rfl
    · exact .single h.timestamp.isItem
    · exact .single h.hostname.isItem
    · exact .single h.operation.isItem
    · exact .single h.source.isItem
    · exact .single h.lines.isItem
    · exact .single h.directivesApplied.isItem
    · exact h.interfacesChanged.isField IsText.isItem
    · exact h.vlansCreated.isField IsNumber.isItem
    · exact .single h.block.isItem
    · rcases h.intent with hnone | htext
      · dsimp only
        rw [hnone]
        exact .nothing
      · exact .single htext.isItem
  have hread := (ofJson_toJson_of_isField hfields 0).2
  exact Except.ok.inj (hread.symm.trans (ofJson_toJson (h.isPlain 0)))

end LeafSwitch.Audit.Record
