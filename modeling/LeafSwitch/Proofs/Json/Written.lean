import LeafSwitch.Proofs.Json.Number
import LeafSwitch.Proofs.Json.Text

/-!
# Plain values in JSON

Plain values are made of settled texts, of whole numbers that may be written out, and of the two
words for truth and the one for nothing. What is written for them is printable ASCII, and it begins
with neither a space nor a closing bracket. -/

namespace LeafSwitch.Json

open Number (digits digits_ne_nil toList_toString)

/-- The entries of a mapping whose keys are texts. -/
def named (entries : List (String × Value)) : List (Value × Value) :=
  entries.map fun (name, v) => (.str name, v)

/-- Values that are read back, with sequences and mappings in each other at most `room` deep. -/
inductive Plain : Nat → Value → Prop where
  /-- Nothing is plain. -/
  | null {room : Nat} : Plain room .null
  /-- Truth values are plain. -/
  | bool {room : Nat} (b : Bool) : Plain room (.bool b)
  /-- Whole numbers are plain that may be written out. -/
  | int {room : Nat} {n : Int} (h : n.natAbs < Value.shownLimit) : Plain room (.int n)
  /-- Texts are plain that are read back as they are. -/
  | str {room : Nat} {s : String} (h : Settled s) : Plain room (.str s)
  /-- A sequence is plain if its items are. -/
  | list {room : Nat} {items : List Value} (h : ∀ v ∈ items, Plain room v) :
    Plain (room + 1) (.list items)
  /-- A mapping is plain if its values are, and its keys are such texts, each of them once. -/
  | map {room : Nat} {entries : List (String × Value)} (once : (entries.map (·.1)).Nodup)
    (names : ∀ p ∈ entries, Settled p.1) (h : ∀ p ∈ entries, Plain room p.2) :
    Plain (room + 1) (.map (named entries))

/-- A value as characters of JSON. -/
def written (v : Value) : List Char :=
  (render v).toList

/-- An entry of a mapping as characters of JSON. -/
def writtenEntry (p : String × Value) : List Char :=
  (renderString p.1).toList ++ [':', ' '] ++ written p.2

/-- Texts with a comma and a space between neighbours. -/
def spaced (texts : List (List Char)) : List Char :=
  [',', ' '].intercalate texts

theorem spaced_singleton (text : List Char) : spaced [text] = text :=
  List.intercalate_singleton

theorem spaced_cons_cons (text next : List Char) (more : List (List Char)) :
    spaced (text :: next :: more) = text ++ ',' :: ' ' :: spaced (next :: more) := by
  rw [spaced, List.intercalate_cons_cons, List.append_assoc]
  rfl

/-! ### How values are written -/

theorem renderItems_eq (items : List Value) : renderItems items = items.map render := by
  induction items with
  | nil => rfl
  | cons v rest ih => rw [renderItems, ih, List.map_cons]

theorem renderEntries_eq (entries : List (String × Value)) :
    renderEntries (named entries) =
      entries.map fun p => renderString p.1 ++ ": " ++ render p.2 := by
  induction entries with
  | nil => rfl
  | cons p rest ih =>
    have hcons : renderEntries (named (p :: rest)) =
        (renderString p.1 ++ ": " ++ render p.2) :: renderEntries (named rest) := rfl
    rw [hcons, ih, List.map_cons]

/-- A sequence is written in brackets. -/
theorem written_list (items : List Value) :
    written (.list items) = '[' :: (spaced (items.map written) ++ [']']) := by
  rw [written, render, String.toList_append, String.toList_append, String.toList_intercalate,
    renderItems_eq, List.map_map]
  rfl

/-- A mapping is written in braces. -/
theorem written_map (entries : List (String × Value)) :
    written (.map (named entries)) = '{' :: (spaced (entries.map writtenEntry) ++ ['}']) := by
  have hentries : (renderEntries (named entries)).map String.toList = entries.map writtenEntry := by
    rw [renderEntries_eq, List.map_map]
    refine List.map_congr_left fun p _ => ?_
    rw [Function.comp_apply, String.toList_append, String.toList_append]
    rfl
  rw [written, render, String.toList_append, String.toList_append, String.toList_intercalate,
    hentries]
  rfl

/-- A text is written in quotes. -/
theorem toList_renderString (s : String) :
    (renderString s).toList = '"' :: ((Text.codesOf s).flatMap escapeCode ++ ['"']) :=
  String.toList_ofList

/-- A number begins with a digit, or with a minus and a digit. -/
theorem exists_written_int (n : Int) :
    ∃ d ds, isDigit d = true ∧
      (written (.int n) = d :: ds ∨ written (.int n) = '-' :: d :: ds) := by
  obtain ⟨d, ds, hd⟩ := List.exists_cons_of_ne_nil (digits_ne_nil n.natAbs)
  have hdigit : isDigit d = true := isDigit_of_mem_digits (hd ▸ List.mem_cons_self)
  have hwritten : written (.int n) = (if n < 0 then ['-'] else []) ++ digits n.natAbs :=
    toList_toString n
  refine ⟨d, ds, hdigit, ?_⟩
  rw [hwritten, hd]
  split
  · exact Or.inr rfl
  · exact Or.inl rfl

/-- A digit is none of the characters that are not. -/
theorem ne_of_isDigit {c d : Char} (hc : isDigit c = true) (hd : isDigit d = false) : c ≠ d := by
  rintro rfl
  rw [hc] at hd
  exact Bool.false_ne_true hd.symm

/-- What is written for a value begins with neither a space nor a closing bracket. -/
theorem exists_written {room : Nat} {v : Value} (h : Plain room v) :
    ∃ c cs, written v = c :: cs ∧ isSpace c = false ∧ c ≠ ']' := by
  cases h with
  | null => exact ⟨'n', ['u', 'l', 'l'], rfl, by decide, by decide⟩
  | bool b =>
    cases b with
    | false => exact ⟨'f', ['a', 'l', 's', 'e'], rfl, by decide, by decide⟩
    | true => exact ⟨'t', ['r', 'u', 'e'], rfl, by decide, by decide⟩
  | @int _ n hn =>
    obtain ⟨d, ds, hd, hwritten | hwritten⟩ := exists_written_int n
    · refine ⟨d, ds, hwritten, ?_, ne_of_isDigit hd (by decide)⟩
      simp only [isSpace, Bool.or_eq_false_iff, beq_eq_false_iff_ne]
      exact ⟨⟨⟨ne_of_isDigit hd (by decide), ne_of_isDigit hd (by decide)⟩,
        ne_of_isDigit hd (by decide)⟩, ne_of_isDigit hd (by decide)⟩
    · exact ⟨'-', d :: ds, hwritten, by decide, by decide⟩
  | @str _ s hs => exact ⟨_, _, toList_renderString s, by decide, by decide⟩
  | @list _ items => exact ⟨_, _, written_list items, by decide, by decide⟩
  | @map _ entries => exact ⟨_, _, written_map entries, by decide, by decide⟩

/-! ### What is written is printable -/

/-- Texts are printable with a comma and a space between them. -/
theorem printable_spaced {texts : List (List Char)} (h : ∀ text ∈ texts, ∀ c ∈ text, Printable c) :
    ∀ c ∈ spaced texts, Printable c := by
  induction texts with
  | nil => exact fun c hc => absurd hc List.not_mem_nil
  | cons text more ih =>
    have hmore := ih fun other hother => h other (List.mem_cons_of_mem text hother)
    cases more with
    | nil =>
      rw [spaced_singleton]
      exact h text List.mem_cons_self
    | cons next more =>
      rw [spaced_cons_cons]
      intro c hc
      rcases List.mem_append.mp hc with hc | hc
      · exact h text List.mem_cons_self c hc
      rcases List.mem_cons.mp hc with rfl | hc
      · decide
      rcases List.mem_cons.mp hc with rfl | hc
      · decide
      · exact hmore c hc

/-- A whole number is written in printable characters. -/
theorem printable_int (n : Int) : ∀ c ∈ written (.int n), Printable c := by
  have hwritten : written (.int n) = (if n < 0 then ['-'] else []) ++ digits n.natAbs :=
    toList_toString n
  rw [hwritten]
  intro c hc
  rcases List.mem_append.mp hc with hc | hc
  · split at hc
    · obtain rfl := List.mem_singleton.mp hc
      decide
    · exact absurd hc List.not_mem_nil
  · have hdigit := isDigit_of_mem_digits hc
    rw [isDigit, Bool.and_eq_true, decide_eq_true_eq, decide_eq_true_eq] at hdigit
    have hle : 0x30 ≤ c.toNat ∧ c.toNat ≤ 0x39 := hdigit
    exact ⟨by omega, by omega⟩

/-- A plain value is written in printable characters. -/
theorem Plain.printable {room : Nat} {v : Value} (h : Plain room v) :
    ∀ c ∈ written v, Printable c := by
  induction h with
  | null => exact List.all_iff_forall_prop.mp (by decide)
  | bool b =>
    cases b with
    | false => exact List.all_iff_forall_prop.mp (by decide)
    | true => exact List.all_iff_forall_prop.mp (by decide)
  | int hn => exact printable_int _
  | str => exact printable_renderString _
  | @list room items h ih =>
    rw [written_list]
    intro c hc
    rcases List.mem_cons.mp hc with rfl | hc
    · decide
    rcases List.mem_append.mp hc with hc | hc
    · refine printable_spaced (fun text htext => ?_) c hc
      obtain ⟨v, hv, rfl⟩ := List.mem_map.mp htext
      exact ih v hv
    · obtain rfl := List.mem_singleton.mp hc
      decide
  | @map room entries once names h ih =>
    rw [written_map]
    intro c hc
    rcases List.mem_cons.mp hc with rfl | hc
    · decide
    rcases List.mem_append.mp hc with hc | hc
    · refine printable_spaced (fun text htext => ?_) c hc
      obtain ⟨p, hp, rfl⟩ := List.mem_map.mp htext
      have hcolon : ∀ d ∈ [':', ' '], Printable d := List.all_iff_forall_prop.mp (by decide)
      intro d hd
      rcases List.mem_append.mp hd with hd | hd
      · rcases List.mem_append.mp hd with hd | hd
        · exact printable_renderString p.1 d hd
        · exact hcolon d hd
      · exact ih p hp d hd
    · obtain rfl := List.mem_singleton.mp hc
      decide

end LeafSwitch.Json
