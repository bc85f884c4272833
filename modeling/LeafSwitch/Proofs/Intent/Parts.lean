import LeafSwitch.Intent.Reply
import LeafSwitch.Proofs.Data.Shown
import LeafSwitch.Proofs.Text.Lines

/-!
# What payloads hold

A text is looked for at one place of a payload, in the parts of its first candidate. There are parts
at this place or none, parts hold texts or not, and the texts come to something or to blanks: each
case has its own outcome. A payload without parts and one with blanks only are reported. Parts that
hold no texts are not: they break the reading off.
-/

namespace LeafSwitch

/-- The entries of a mapping. -/
def Value.entries? : Value → Option (List (Value × Value))
  | .map entries => some entries
  | _ => none

/-- Only a mapping has entries. -/
theorem Value.entries?_eq_some_iff {v : Value} {entries : List (Value × Value)} :
    v.entries? = some entries ↔ v = .map entries := by
  constructor
  · intro h
    cases v with
    | map items => exact congrArg Value.map (Option.some.inj h)
    | null | bool | int | float | str | list | other => cases h
  · rintro rfl
    rfl

namespace Intent

/-! ### Where the parts are -/

/-- A payload has parts where they should be. -/
inductive PartsAt : Value → Value → Prop where
  /-- The first candidate is a mapping, and so is its content, which has the parts. -/
  | intro {top first content : List (Value × Value)} {rest : List Value} {parts : Value}
      (hcandidates : Value.entry? top "candidates" = some (.list (.map first :: rest)))
      (hcontent : Value.entry? first "content" = some (.map content))
      (hparts : Value.entry? content "parts" = some parts) : PartsAt (.map top) parts

/-- Only a mapping has something under a name. -/
theorem under?_eq_some_iff {name : String} {v w : Value} :
    under? name v = some w ↔ ∃ entries, v = .map entries ∧ Value.entry? entries name = some w := by
  constructor
  · intro h
    cases v with
    | map entries => exact ⟨entries, rfl, h⟩
    | null | bool | int | float | str | list | other => cases h
  · rintro ⟨entries, rfl, h⟩
    exact h

/-- Parts are found exactly where they should be. -/
theorem parts?_eq_some_iff {payload parts : Value} :
    parts? payload = some parts ↔ PartsAt payload parts := by
  constructor
  · intro h
    rw [parts?] at h
    split at h
    · next first rest hcandidates =>
      obtain ⟨top, rfl, htop⟩ := under?_eq_some_iff.mp hcandidates
      obtain ⟨content, hcontent, hparts⟩ := Option.bind_eq_some_iff.mp h
      obtain ⟨entries, rfl, hentries⟩ := under?_eq_some_iff.mp hcontent
      obtain ⟨inner, rfl, hinner⟩ := under?_eq_some_iff.mp hparts
      exact .intro htop hentries hinner
    · cases h
  · rintro ⟨htop, hentries, hinner⟩
    rw [parts?, under?, htop]
    dsimp only
    rw [under?, hentries]
    exact hinner

/-- No parts are found exactly where there are none. -/
theorem parts?_eq_none_iff {payload : Value} :
    parts? payload = none ↔ ∀ parts, ¬PartsAt payload parts := by
  simp only [← parts?_eq_some_iff, Option.eq_none_iff_forall_ne_some, ne_eq]

/-! ### Which texts they hold -/

/-- A mapping has a text; one with nothing in its place has the empty one. -/
def HasText (entries : List (Value × Value)) (s : String) : Prop :=
  Value.entry? entries "text" = some (.str s) ∨ Value.entry? entries "text" = none ∧ s = ""

/-- A mapping has something else in place of a text. -/
def LacksText (entries : List (Value × Value)) (v : Value) : Prop :=
  Value.entry? entries "text" = some v ∧ ∀ s, v ≠ .str s

/-- A mapping has a text or something else in its place. -/
theorem hasText_or_lacksText (entries : List (Value × Value)) :
    (∃ s, HasText entries s) ∨ ∃ v, LacksText entries v := by
  cases hentry : Value.entry? entries "text" with
  | none => exact Or.inl ⟨"", Or.inr ⟨hentry, rfl⟩⟩
  | some v =>
    by_cases htext : ∃ s, v = .str s
    · obtain ⟨s, rfl⟩ := htext
      exact Or.inl ⟨s, Or.inl hentry⟩
    · exact Or.inr ⟨v, hentry, fun s hs => htext ⟨s, hs⟩⟩

/-- The text of a mapping is read. -/
theorem HasText.textsFrom_cons {entries : List (Value × Value)} {s : String}
    (h : HasText entries s) (index : Nat) (rest : List (List (Value × Value))) :
    textsFrom index (entries :: rest) = (textsFrom (index + 1) rest).map (s :: ·) := by
  rw [textsFrom]
  rcases h with htext | ⟨hnone, rfl⟩
  · rw [htext]
    rfl
  · rw [hnone]
    rfl

/-- Reading ends at a mapping that has something else in place of a text. -/
theorem LacksText.textsFrom_cons {entries : List (Value × Value)} {v : Value}
    (h : LacksText entries v) (index : Nat) (rest : List (List (Value × Value))) :
    textsFrom index (entries :: rest) = .error (.noText index v.kind) := by
  obtain ⟨hentry, hno⟩ := h
  rw [textsFrom, hentry, Option.getD_some]
  split
  · next s => exact absurd rfl (hno s)
  · rfl

/-- The mappings among items have texts. -/
inductive TextsIn : List Value → List String → Prop where
  /-- There are no items. -/
  | nil : TextsIn [] []
  /-- The first item is a mapping. -/
  | mapping {entries : List (Value × Value)} {s : String} {items : List Value}
      {texts : List String} (htext : HasText entries s) (rest : TextsIn items texts) :
      TextsIn (.map entries :: items) (s :: texts)
  /-- The first item is something else. -/
  | other {item : Value} {items : List Value} {texts : List String}
      (hitem : item.entries? = none) (rest : TextsIn items texts) : TextsIn (item :: items) texts

/-- The first mapping among items that has something else in place of a text, with the number of
mappings in front of it. -/
def Spoilt (items : List Value) (place : Nat) (v : Value) : Prop :=
  ∃ before entries behind texts, items = before ++ .map entries :: behind ∧
    TextsIn before texts ∧ texts.length = place ∧ LacksText entries v

/-- All mappings among items have texts, or one of them is the first that has none. -/
theorem textsIn_or_spoilt (items : List Value) :
    (∃ texts, TextsIn items texts) ∨ ∃ place v, Spoilt items place v := by
  induction items with
  | nil => exact Or.inl ⟨[], .nil⟩
  | cons item items ih =>
    cases hitem : item.entries? with
    | none =>
      rcases ih with ⟨texts, htexts⟩ | ⟨place, v, before, entries, behind, texts, rfl, hbefore, hv⟩
      · exact Or.inl ⟨texts, .other hitem htexts⟩
      · exact Or.inr ⟨place, v, item :: before, entries, behind, texts, rfl,
          .other hitem hbefore, hv⟩
    | some first =>
      obtain rfl : item = .map first := Value.entries?_eq_some_iff.mp hitem
      rcases hasText_or_lacksText first with ⟨s, hs⟩ | ⟨v, hv⟩
      · rcases ih with
          ⟨texts, htexts⟩ | ⟨place, v, before, entries, behind, texts, rfl, hbefore, rfl, hv⟩
        · exact Or.inl ⟨s :: texts, .mapping hs htexts⟩
        · exact Or.inr ⟨texts.length + 1, v, .map first :: before, entries, behind, s :: texts, rfl,
            .mapping hs hbefore, rfl, hv⟩
      · exact Or.inr ⟨0, v, [], first, items, [], rfl, .nil, rfl, hv⟩

/-- The texts of items are read, and then those of what comes behind. -/
theorem TextsIn.textsFrom_append {items : List Value} {texts : List String}
    (h : TextsIn items texts) (index : Nat) (behind : List (List (Value × Value))) :
    textsFrom index (items.filterMap Value.entries? ++ behind) =
      (textsFrom (index + texts.length) behind).map (texts ++ ·) := by
  induction h generalizing index with
  | nil => exact (congrFun Except.map_id _).symm
  | @mapping entries s items texts htext _ ih =>
    have hplace : index + 1 + texts.length = index + (s :: texts).length := by
      rw [List.length_cons]
      omega
    change textsFrom index (entries :: (items.filterMap Value.entries? ++ behind)) = _
    rw [htext.textsFrom_cons, ih, hplace]
    cases textsFrom (index + (s :: texts).length) behind <;> rfl
  | other hitem _ ih => rw [List.filterMap_cons_none hitem, ih]

/-- Items with texts give them. -/
theorem TextsIn.textsFrom_eq {items : List Value} {texts : List String} (h : TextsIn items texts) :
    textsFrom 0 (items.filterMap Value.entries?) = .ok texts := by
  have hread := h.textsFrom_append 0 []
  rw [List.append_nil] at hread
  rw [hread, textsFrom, Except.map, List.append_nil]

/-- Items with a mapping that has no text are refused. -/
theorem Spoilt.textsFrom_eq {items : List Value} {place : Nat} {v : Value}
    (h : Spoilt items place v) :
    textsFrom 0 (items.filterMap Value.entries?) = .error (.noText place v.kind) := by
  obtain ⟨before, entries, behind, texts, rfl, hbefore, rfl, hlacks⟩ := h
  rw [List.filterMap_append, hbefore.textsFrom_append, List.filterMap_cons_some
    (Value.entries?_eq_some_iff.mpr rfl), hlacks.textsFrom_cons, Nat.zero_add]
  rfl

/-- Parts have texts. There are none among the characters of a text and the keys of a mapping. -/
inductive Holds : Value → List String → Prop where
  /-- The parts are a list. -/
  | list {items : List Value} {texts : List String} (h : TextsIn items texts) :
      Holds (.list items) texts
  /-- The parts are a text. -/
  | str (s : String) : Holds (.str s) []
  /-- The parts are a mapping. -/
  | map (entries : List (Value × Value)) : Holds (.map entries) []

/-- Why parts have no texts. -/
inductive Spoils : Value → ReplyError → Prop where
  /-- They cannot be gone through. -/
  | noParts {parts : Value} (hlist : ∀ items, parts ≠ .list items) (hstr : ∀ s, parts ≠ .str s)
      (hmap : ∀ entries, parts ≠ .map entries) : Spoils parts (.noParts parts.kind)
  /-- A mapping among them has something else in place of a text. -/
  | noText {items : List Value} {place : Nat} {v : Value} (h : Spoilt items place v) :
      Spoils (.list items) (.noText place v.kind)

/-- Parts have texts, or it is said why they have none. -/
theorem holds_or_spoils (parts : Value) :
    (∃ texts, Holds parts texts) ∨ ∃ e, Spoils parts e := by
  cases parts with
  | list items =>
    rcases textsIn_or_spoilt items with ⟨texts, h⟩ | ⟨place, v, h⟩
    · exact Or.inl ⟨texts, .list h⟩
    · exact Or.inr ⟨_, .noText h⟩
  | str s => exact Or.inl ⟨[], .str s⟩
  | map entries => exact Or.inl ⟨[], .map entries⟩
  | null | bool | int | float | other =>
    exact Or.inr ⟨_, .noParts (by rintro _ ⟨⟩) (by rintro _ ⟨⟩) (by rintro _ ⟨⟩)⟩

/-- The texts of parts. -/
def textsOf (parts : Value) : Except ReplyError (List String) :=
  mappingsOf parts >>= textsFrom 0

/-- The items of a list are gone through for mappings. -/
theorem textsOf_list (items : List Value) :
    textsOf (.list items) = textsFrom 0 (items.filterMap Value.entries?) :=
  rfl

/-- Parts with texts give them. -/
theorem Holds.textsOf_eq {parts : Value} {texts : List String} (h : Holds parts texts) :
    textsOf parts = .ok texts := by
  cases h with
  | list h => rw [textsOf_list, h.textsFrom_eq]
  | str | map => rfl

/-- Parts without texts are refused. -/
theorem Spoils.textsOf_eq {parts : Value} {e : ReplyError} (h : Spoils parts e) :
    textsOf parts = .error e := by
  cases h with
  | noParts hlist hstr hmap =>
    rw [textsOf, mappingsOf]
    · rfl
    · exact hlist
    · exact hstr
    · exact hmap
  | noText h => rw [textsOf_list, h.textsFrom_eq]

/-! ### What comes of a payload -/

/-- What comes of a payload, told by its parts and the texts that they have. -/
inductive ComesTo (room : Nat) (payload : Value) : Except ReplyError String → Prop where
  /-- The texts of the parts, trimmed. -/
  | text {parts : Value} {texts : List String} (hparts : PartsAt payload parts)
      (hholds : Holds parts texts) (hne : Text.trimmed (Text.join "" texts) ≠ "") :
      ComesTo room payload (.ok (Text.trimmed (Text.join "" texts)))
  /-- Nothing, for the texts are blank. -/
  | empty {parts : Value} {texts : List String} (hparts : PartsAt payload parts)
      (hholds : Holds parts texts)
      (hblank : ∀ c ∈ (Text.join "" texts).toList, Text.isBlank c = true) :
      ComesTo room payload (.error .empty)
  /-- Nothing, for there are no parts. -/
  | shape {told : String} (habsent : ∀ parts, ¬PartsAt payload parts)
      (hshown : payload.text room = .ok told) : ComesTo room payload (.error (.shape told))
  /-- Nothing, for there are no parts in what cannot even be shown. -/
  | unshown {cause : ShowError} (habsent : ∀ parts, ¬PartsAt payload parts)
      (hunshown : payload.text room = .error cause) :
      ComesTo room payload (.error (.unshown cause))
  /-- Nothing, for the parts have no texts. -/
  | spoilt {parts : Value} {e : ReplyError} (hparts : PartsAt payload parts)
      (hspoils : Spoils parts e) : ComesTo room payload (.error e)

/-- Something comes of every payload. -/
theorem exists_comesTo (room : Nat) (payload : Value) : ∃ r, ComesTo room payload r := by
  cases hparts : parts? payload with
  | none =>
    have habsent := parts?_eq_none_iff.mp hparts
    cases hshown : payload.text room with
    | ok told => exact ⟨_, .shape habsent hshown⟩
    | error cause => exact ⟨_, .unshown habsent hshown⟩
  | some parts =>
    have hat := parts?_eq_some_iff.mp hparts
    rcases holds_or_spoils parts with ⟨texts, hholds⟩ | ⟨e, hspoils⟩
    · by_cases hne : Text.trimmed (Text.join "" texts) = ""
      · exact ⟨_, .empty hat hholds ((Text.trimmed_eq_empty_iff _).mp hne)⟩
      · exact ⟨_, .text hat hholds hne⟩
    · exact ⟨_, .spoilt hat hspoils⟩

/-- A payload without parts is refused. -/
theorem replyText_of_absent {room : Nat} {payload : Value} (h : ∀ parts, ¬PartsAt payload parts) :
    replyText room payload = .error (misshapen room payload) := by
  rw [replyText, parts?_eq_none_iff.mpr h]

/-- What texts come to: they are put together and trimmed, if anything is left then. -/
def joined (texts : List String) : Except ReplyError String :=
  if (Text.trimmed (Text.join "" texts)).isEmpty then .error .empty
  else .ok (Text.trimmed (Text.join "" texts))

/-- The reading of a payload with parts goes on with their texts. -/
theorem replyText_of_partsAt {room : Nat} {payload parts : Value} (h : PartsAt payload parts) :
    replyText room payload = textsOf parts >>= joined := by
  rw [replyText, parts?_eq_some_iff.mpr h]
  exact (bind_assoc (mappingsOf parts) (textsFrom 0) joined).symm

/-- The reading of a payload with texts in its parts comes to what they come to. -/
theorem replyText_of_holds {room : Nat} {payload parts : Value} {texts : List String}
    (hparts : PartsAt payload parts) (hholds : Holds parts texts) :
    replyText room payload = joined texts := by
  rw [replyText_of_partsAt hparts, hholds.textsOf_eq]
  exact pure_bind texts joined

/-- What comes of a payload is read. -/
theorem ComesTo.replyText_eq {room : Nat} {payload : Value} {r : Except ReplyError String}
    (h : ComesTo room payload r) : replyText room payload = r := by
  cases h with
  | text hparts hholds hne =>
    rw [replyText_of_holds hparts hholds, joined, if_neg (mt String.isEmpty_iff.mp hne)]
  | empty hparts hholds hblank =>
    have hempty := String.isEmpty_iff.mpr ((Text.trimmed_eq_empty_iff _).mpr hblank)
    rw [replyText_of_holds hparts hholds, joined, if_pos hempty]
  | shape habsent hshown => rw [replyText_of_absent habsent, misshapen, hshown]
  | unshown habsent hunshown => rw [replyText_of_absent habsent, misshapen, hunshown]
  | spoilt hparts hspoils =>
    rw [replyText_of_partsAt hparts, hspoils.textsOf_eq]
    rfl

/-- What is read of a payload is what comes of it. -/
theorem replyText_eq_iff {room : Nat} {payload : Value} {r : Except ReplyError String} :
    replyText room payload = r ↔ ComesTo room payload r := by
  constructor
  · rintro rfl
    obtain ⟨r, hr⟩ := exists_comesTo room payload
    rwa [hr.replyText_eq]
  · exact ComesTo.replyText_eq

/-- Whether a failure is one that replies are said to have: no parts, or no text in them. -/
def ReplyError.isReported : ReplyError → Bool
  | .shape _ | .empty => true
  | .unshown _ | .noParts _ | .noText _ _ => false

/-- A payload without parts, or with blank texts only, comes to a failure that is reported. -/
theorem comesTo_reported_iff (room : Nat) (payload : Value) :
    (∃ e : ReplyError, ComesTo room payload (.error e) ∧ e.isReported = true) ↔
      (∀ parts, ¬PartsAt payload parts) ∧ (∃ told, payload.text room = .ok told) ∨
        ∃ parts texts, PartsAt payload parts ∧ Holds parts texts ∧
          ∀ c ∈ (Text.join "" texts).toList, Text.isBlank c = true := by
  constructor
  · rintro ⟨e, hcomes, hreported⟩
    cases hcomes with
    | shape habsent hshown => exact Or.inl ⟨habsent, _, hshown⟩
    | empty hparts hholds hblank => exact Or.inr ⟨_, _, hparts, hholds, hblank⟩
    | unshown => cases hreported
    | spoilt _ hspoils => cases hspoils <;> cases hreported
  · rintro (⟨habsent, told, hshown⟩ | ⟨parts, texts, hparts, hholds, hblank⟩)
    · exact ⟨_, .shape habsent hshown, rfl⟩
    · exact ⟨_, .empty hparts hholds hblank, rfl⟩

/-- A text comes of a payload if its parts have texts that are not blank. -/
theorem comesTo_ok_iff (room : Nat) (payload : Value) (s : String) :
    ComesTo room payload (.ok s) ↔ s ≠ "" ∧ ∃ parts texts, PartsAt payload parts ∧
      Holds parts texts ∧ s = Text.trimmed (Text.join "" texts) := by
  constructor
  · rintro ⟨hparts, hholds, hne⟩
    exact ⟨hne, _, _, hparts, hholds, rfl⟩
  · rintro ⟨hne, parts, texts, hparts, hholds, rfl⟩
    exact .text hparts hholds hne

/-- A payload comes to a failure that is not reported for one of two causes: its parts have no
texts, or it has none and cannot be shown. -/
theorem comesTo_error_iff_of_unreported (room : Nat) (payload : Value) {e : ReplyError}
    (h : e.isReported = false) :
    ComesTo room payload (.error e) ↔ (∃ parts, PartsAt payload parts ∧ Spoils parts e) ∨
      ∃ cause, e = .unshown cause ∧ (∀ parts, ¬PartsAt payload parts) ∧
        payload.text room = .error cause := by
  constructor
  · intro hcomes
    cases hcomes with
    | spoilt hparts hspoils => exact Or.inl ⟨_, hparts, hspoils⟩
    | unshown habsent hunshown => exact Or.inr ⟨_, rfl, habsent, hunshown⟩
    | shape | empty => cases h
  · rintro (⟨parts, hparts, hspoils⟩ | ⟨cause, rfl, habsent, hunshown⟩)
    · exact .spoilt hparts hspoils
    · exact .unshown habsent hunshown

/-- A payload gives a text exactly if its parts have texts that are not blank: these, one after
another, and trimmed, so that no blank is left at either end. A failure is reported exactly if there
are no parts or their texts are blank. Any other failure has one of two causes: the parts have no
texts, which is told by their kind or by the first of them that is to blame; or there are none, and
the payload is not shown in the report, for a number in it is too long or something lies too deep in
it. -/
theorem replyText_gives_or_reports (room : Nat) (payload : Value) :
    (∀ s, replyText room payload = .ok s ↔ s ≠ "" ∧ ∃ parts texts, PartsAt payload parts ∧
      Holds parts texts ∧ s = Text.trimmed (Text.join "" texts)) ∧
    (∀ s, replyText room payload = .ok s → Text.trimmed s = s) ∧
    ((∃ e : ReplyError, replyText room payload = .error e ∧ e.isReported = true) ↔
      (∀ parts, ¬PartsAt payload parts) ∧ (∃ told, payload.text room = .ok told) ∨
        ∃ parts texts, PartsAt payload parts ∧ Holds parts texts ∧
          ∀ c ∈ (Text.join "" texts).toList, Text.isBlank c = true) ∧
    (∀ e : ReplyError, e.isReported = false → (replyText room payload = .error e ↔
      (∃ parts, PartsAt payload parts ∧ Spoils parts e) ∨
        ∃ cause, e = .unshown cause ∧ (∀ parts, ¬PartsAt payload parts) ∧
          payload.text room = .error cause)) ∧
    ∀ cause, payload.text room = .error cause → payload.Exceeds room cause := by
  simp only [replyText_eq_iff]
  refine ⟨comesTo_ok_iff room payload, ?_, comesTo_reported_iff room payload, ?_, ?_⟩
  · intro s hcomes
    obtain ⟨_, _, texts, _, _, rfl⟩ := (comesTo_ok_iff room payload s).mp hcomes
    exact Text.trimmed_trimmed (Text.join "" texts)
  · intro e he
    exact comesTo_error_iff_of_unreported room payload he
  · exact fun cause => Value.exceeds_of_text

/-- A payload with nothing for its parts gives no text, and its failure is not reported. -/
theorem replyText_breaks_off_at_null :
    ¬ ∀ room payload, (∃ s, replyText room payload = .ok s) ∨
      ∃ e : ReplyError, replyText room payload = .error e ∧ e.isReported = true := by
  intro h
  have hreply : replyText 490 (.map [(.str "candidates",
      .list [.map [(.str "content", .map [(.str "parts", .null)])]])]) =
      .error (.noParts "NoneType") := by
    decide +kernel
  rcases h 490 (.map [(.str "candidates", .list [.map [(.str "content",
    .map [(.str "parts", .null)])]])]) with ⟨s, hok⟩ | ⟨e, herror, hreported⟩
  · exact absurd (hreply.symm.trans hok) (by rintro ⟨⟩)
  · obtain rfl := Except.error.inj (hreply.symm.trans herror)
    cases hreported

end Intent

end LeafSwitch
