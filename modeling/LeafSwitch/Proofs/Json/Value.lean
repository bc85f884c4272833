import LeafSwitch.Proofs.Json.Written
import Mathlib.Data.List.Induction

/-!
# Reading JSON values back

A plain value is read back from the JSON it is written as. Words, numbers and texts are read up to
where they end, and items and entries up to the bracket that closes them.
-/

namespace LeafSwitch.Json

/-! ### Words and numbers -/

private theorem isPrefixOf_of_ne {w c : Char} (h : w ≠ c) (ws cs : List Char) :
    (w :: ws).isPrefixOf (c :: cs) = false := by
  have hbeq : (w == c) = false := beq_eq_false_iff_ne.mpr h
  rw [List.isPrefixOf_cons_cons, hbeq, Bool.false_and]

/-- A word does not stand where the text does not begin with it. -/
theorem afterWord?_of_not {word : String} {cs : List Char} (h : word.toList.isPrefixOf cs = false) :
    afterWord? word cs = none := by
  rw [afterWord?, h, if_neg Bool.false_ne_true]

/-- No word stands where a number is written. -/
theorem readScalar_int (n : Int) (rest : List Char) :
    readScalar (written (.int n) ++ rest) = readNumber (written (.int n) ++ rest) := by
  obtain ⟨d, ds, hd, hwritten⟩ := exists_written_int n
  have hother : ∀ w, isDigit w = false → w ≠ d := fun w hw => (ne_of_isDigit hd hw).symm
  obtain ⟨c, cs, hcs, hc, hinfinity⟩ : ∃ c cs, written (.int n) ++ rest = c :: cs ∧
      (∀ w, isDigit w = false ∧ w ≠ '-' → w ≠ c) ∧
      "-Infinity".toList.isPrefixOf (c :: cs) = false := by
    rcases hwritten with hwritten | hwritten
    · refine ⟨d, ds ++ rest, by rw [hwritten, List.cons_append], fun w hw => hother w hw.1, ?_⟩
      exact isPrefixOf_of_ne (hother '-' (by decide)) _ _
    · refine ⟨'-', d :: ds ++ rest, by rw [hwritten, List.cons_append], fun w hw => hw.2, ?_⟩
      exact isPrefixOf_of_ne (hother 'I' (by decide)) _ _
  have hword : ∀ word w ws, word.toList = w :: ws → isDigit w = false ∧ w ≠ '-' →
      afterWord? word (c :: cs) = none := by
    intro word w ws hws hw
    apply afterWord?_of_not
    rw [hws]
    exact isPrefixOf_of_ne (hc w hw) ws cs
  rw [hcs]
  simp only [readScalar, List.findSome?_cons, List.findSome?_nil, Option.map_none,
    hword "null" 'n' _ rfl (by decide), hword "true" 't' _ rfl (by decide),
    hword "false" 'f' _ rfl (by decide), hword "NaN" 'N' _ rfl (by decide),
    hword "Infinity" 'I' _ rfl (by decide), afterWord?_of_not hinfinity]

/-! ### Keys -/

/-- Two texts are one key exactly where they are the same. -/
theorem sameKey_str (a b : String) : Value.sameKey (.str a) (.str b) = decide (a = b) := by
  have hbeq : Value.sameKey (.str a) (.str b) = (Value.str a == Value.str b) := rfl
  rw [hbeq, Bool.eq_iff_iff, beq_iff_eq, decide_eq_true_eq, Value.str.injEq]

/-- A text that is no key yet is put behind the others. -/
theorem putEntry_named {entries : List (String × Value)} {name : String}
    (h : name ∉ entries.map (·.1)) (v : Value) :
    Value.putEntry (named entries) (.str name) v = named (entries ++ [(name, v)]) := by
  have hnew : ¬((named entries).any fun q => q.1.sameKey (.str name)) = true := by
    rw [Bool.not_eq_true, List.any_eq_false]
    intro q hq
    obtain ⟨r, hr, rfl⟩ := List.mem_map.mp hq
    dsimp only
    rw [sameKey_str, decide_eq_true_eq]
    exact fun heq => h (heq ▸ List.mem_map_of_mem hr)
  have hsnoc : named (entries ++ [(name, v)]) = named entries ++ [(.str name, v)] := List.map_append
  rw [hsnoc]
  exact if_neg hnew

/-- Entries that are built up under distinct texts stay as they are given. -/
theorem mapOf_named {entries : List (String × Value)} (h : (entries.map (·.1)).Nodup) :
    Value.mapOf (named entries) = .map (named entries) := by
  have hbuilt : (named entries).foldl (fun built q => Value.putEntry built q.1 q.2) [] =
      named entries := by
    induction entries using List.reverseRecOn with
    | nil => rfl
    | append_singleton entries p ih =>
      rw [List.map_append, List.nodup_append] at h
      have hnew : p.1 ∉ entries.map (·.1) := fun hmem =>
        h.2.2 p.1 hmem p.1 List.mem_cons_self rfl
      have hsnoc : named (entries ++ [p]) = named entries ++ [(.str p.1, p.2)] := List.map_append
      calc (named (entries ++ [p])).foldl (fun built q => Value.putEntry built q.1 q.2) []
          = Value.putEntry (named entries) (.str p.1) p.2 := by
            rw [hsnoc, List.foldl_append, ih h.1]
            rfl
        _ = named (entries ++ [p]) := putEntry_named hnew p.2
  exact congrArg Value.map hbuilt

/-! ### Reading back -/

/-- A value is read where it is written, whatever text behind it does not go on with it; at least as
many characters may be read as are written. -/
def Returns (room : Nat) (v : Value) : Prop :=
  ∀ fuel rest, (written v).length ≤ fuel → Stops rest →
    readValue fuel room (written v ++ rest) = .ok (v, rest)

theorem stops_of_not_digit {c : Char} (h : isDigit c = false ∧ c ≠ '.' ∧ c ≠ 'e' ∧ c ≠ 'E')
    (rest : List Char) : Stops (c :: rest) := by
  intro d hd
  obtain rfl := Option.some.inj hd
  exact h

/-- Texts begin as the first of them does. -/
theorem spaced_append (c : Char) (cs : List Char) (more : List (List Char)) (rest : List Char) :
    spaced ((c :: cs) :: more) ++ rest = c :: (spaced (cs :: more) ++ rest) := by
  rw [spaced, List.intercalate_cons_cons_left, List.cons_append]
  rfl

/-- Nothing is skipped of texts of which the first begins with no space. -/
theorem skipSpace_spaced {c : Char} (h : isSpace c = false) (cs : List Char)
    (more : List (List Char)) (rest : List Char) :
    skipSpace (spaced ((c :: cs) :: more) ++ rest) = spaced ((c :: cs) :: more) ++ rest := by
  rw [spaced_append]
  exact List.dropWhile_cons_of_neg (Bool.eq_false_iff.mp h)

/-- Nothing is skipped of written items. -/
theorem skipSpace_items {room : Nat} {v : Value} (h : Plain room v) (more : List Value)
    (rest : List Char) : skipSpace (spaced ((v :: more).map written) ++ rest) =
      spaced ((v :: more).map written) ++ rest := by
  obtain ⟨c, cs, hcs, hspace, _⟩ := exists_written h
  rw [List.map_cons, hcs]
  exact skipSpace_spaced hspace cs (more.map written) rest

/-- Nothing is skipped of a written value. -/
theorem skipSpace_written {room : Nat} {v : Value} (h : Plain room v) (rest : List Char) :
    skipSpace (written v ++ rest) = written v ++ rest := by
  have hskip := skipSpace_items h [] rest
  rwa [List.map_cons, List.map_nil, spaced_singleton] at hskip

/-- A space is skipped. -/
theorem skipSpace_space (cs : List Char) : skipSpace (' ' :: cs) = skipSpace cs := rfl

/-- An item before a closing bracket is the last one. -/
theorem readItems_bracket {fuel room : Nat} {v : Value} {cs rest : List Char}
    (h : readValue fuel room cs = .ok (v, ']' :: rest)) :
    readItems (fuel + 1) room cs = .ok ([v], rest) := by
  rw [readItems, h]
  rfl

/-- Behind an item and a comma, there are further items. -/
theorem readItems_comma {fuel room : Nat} {v : Value} {cs more : List Char}
    (h : readValue fuel room cs = .ok (v, ',' :: more)) :
    readItems (fuel + 1) room cs =
      (readItems fuel room (skipSpace more)).map fun (items, after) => (v :: items, after) := by
  rw [readItems, h]
  have hcomma : skipSpace (',' :: more) = ',' :: more := rfl
  cases hitems : readItems fuel room (skipSpace more) with
  | error e =>
    simp only [bind, Except.bind, hcomma, hitems]
    rfl
  | ok p =>
    simp only [bind, Except.bind, hcomma, hitems]
    rfl

/-- Items are read up to the closing bracket. -/
theorem readItems_spaced {room : Nat} {items : List Value} (hne : items ≠ [])
    (h : ∀ v ∈ items, Plain room v) (hreturns : ∀ v ∈ items, Returns room v) {fuel : Nat}
    (hfuel : (spaced (items.map written)).length < fuel) (rest : List Char) :
    readItems fuel room (spaced (items.map written) ++ ']' :: rest) = .ok (items, rest) := by
  -- By induction on the items: a comma and a space stand before each but the first.
  induction items generalizing fuel with
  | nil => exact absurd rfl hne
  | cons v more ih =>
    obtain ⟨fuel, rfl⟩ := Nat.exists_eq_add_one_of_ne_zero (Nat.ne_zero_of_lt hfuel)
    have hv := hreturns v List.mem_cons_self
    cases more with
    | nil =>
      rw [List.map_cons, List.map_nil, spaced_singleton] at hfuel ⊢
      exact readItems_bracket
        (hv fuel _ (Nat.lt_succ_iff.mp hfuel) (stops_of_not_digit (by decide) rest))
    | cons w more =>
      have hspaced : spaced ((v :: w :: more).map written) =
          written v ++ ',' :: ' ' :: spaced ((w :: more).map written) := spaced_cons_cons ..
      rw [hspaced, List.length_append, List.length_cons, List.length_cons] at hfuel
      have hrest := ih (List.cons_ne_nil w more) (fun u hu => h u (List.mem_cons_of_mem v hu))
        (fun u hu => hreturns u (List.mem_cons_of_mem v hu)) (by omega : _ < fuel)
      have hw : Plain room w := h w (List.mem_cons_of_mem v List.mem_cons_self)
      rw [hspaced, List.append_assoc, List.cons_append, List.cons_append,
        readItems_comma (hv fuel _ (by omega) (stops_of_not_digit (by decide) _)),
        skipSpace_space, skipSpace_items hw, hrest]
      rfl

/-! ### Mappings -/

section Members

variable {fuel room : Nat} {name : String} {v : Value} {body text more rest : List Char}

/-- An entry before a closing brace is the last one. -/
theorem readMembers_brace (hname : readString body = .ok (name, ':' :: text))
    (hvalue : readValue fuel room (skipSpace text) = .ok (v, '}' :: rest)) :
    readMembers (fuel + 1) room ('"' :: body) = .ok ([(.str name, v)], rest) := by
  have hcolon : skipSpace (':' :: text) = ':' :: text := rfl
  rw [readMembers, hname]
  simp only [bind, Except.bind, hcolon, hvalue]
  rfl

/-- Behind an entry and a comma, there are further entries. -/
theorem readMembers_comma (hname : readString body = .ok (name, ':' :: text))
    (hvalue : readValue fuel room (skipSpace text) = .ok (v, ',' :: more)) :
    readMembers (fuel + 1) room ('"' :: body) = (readMembers fuel room (skipSpace more)).map
      fun (entries, after) => ((.str name, v) :: entries, after) := by
  have hcolon : skipSpace (':' :: text) = ':' :: text := rfl
  have hcomma : skipSpace (',' :: more) = ',' :: more := rfl
  rw [readMembers, hname]
  simp only [bind, Except.bind, hcolon, hvalue, hcomma]
  cases readMembers fuel room (skipSpace more) <;> rfl

end Members

/-- An entry is written as its key in quotes, a colon, a space, and its value. -/
theorem writtenEntry_append (p : String × Value) (rest : List Char) :
    writtenEntry p ++ rest = '"' :: ((Text.codesOf p.1).flatMap escapeCode ++
      '"' :: ':' :: ' ' :: (written p.2 ++ rest)) := by
  rw [writtenEntry, toList_renderString]
  simp only [List.cons_append, List.append_assoc, List.nil_append]

/-- An entry begins with a quote. -/
theorem exists_writtenEntry (p : String × Value) : ∃ cs, writtenEntry p = '"' :: cs :=
  ⟨_, (List.append_nil _).symm.trans (writtenEntry_append p [])⟩

/-- Nothing is skipped of written entries. -/
theorem skipSpace_entries (p : String × Value) (more : List (String × Value)) (rest : List Char) :
    skipSpace (spaced ((p :: more).map writtenEntry) ++ rest) =
      spaced ((p :: more).map writtenEntry) ++ rest := by
  obtain ⟨cs, hcs⟩ := exists_writtenEntry p
  rw [List.map_cons, hcs]
  exact skipSpace_spaced (by decide) cs (more.map writtenEntry) rest

/-- Entries are read up to the closing brace. -/
theorem readMembers_spaced {room : Nat} {entries : List (String × Value)} (hne : entries ≠ [])
    (hnames : ∀ p ∈ entries, Settled p.1) (h : ∀ p ∈ entries, Plain room p.2)
    (hreturns : ∀ p ∈ entries, Returns room p.2) {fuel : Nat}
    (hfuel : (spaced (entries.map writtenEntry)).length < fuel) (rest : List Char) :
    readMembers fuel room (spaced (entries.map writtenEntry) ++ '}' :: rest) =
      .ok (named entries, rest) := by
  induction entries generalizing fuel with
  | nil => exact absurd rfl hne
  | cons p more ih =>
    obtain ⟨fuel, rfl⟩ := Nat.exists_eq_add_one_of_ne_zero (Nat.ne_zero_of_lt hfuel)
    have hsettled : reread p.1 = p.1 := hnames p List.mem_cons_self
    have hname := readString_renderString p.1
    rw [hsettled] at hname
    have hvalue : ∀ {c : Char} {after : List Char},
        isDigit c = false ∧ c ≠ '.' ∧ c ≠ 'e' ∧ c ≠ 'E' → (writtenEntry p).length ≤ fuel →
        readValue fuel room (skipSpace (' ' :: (written p.2 ++ c :: after))) =
          .ok (p.2, c :: after) := by
      intro c after hc hlength
      rw [skipSpace_space, skipSpace_written (h p List.mem_cons_self)]
      refine hreturns p List.mem_cons_self fuel _ ?_ (stops_of_not_digit hc after)
      rw [writtenEntry, List.length_append] at hlength
      omega
    cases more with
    | nil =>
      rw [List.map_cons, List.map_nil, spaced_singleton] at hfuel ⊢
      rw [writtenEntry_append]
      exact readMembers_brace (hname _) (hvalue (by decide) (Nat.lt_succ_iff.mp hfuel))
    | cons q more =>
      have hspaced : spaced ((p :: q :: more).map writtenEntry) =
          writtenEntry p ++ ',' :: ' ' :: spaced ((q :: more).map writtenEntry) :=
        spaced_cons_cons ..
      rw [hspaced, List.length_append, List.length_cons, List.length_cons] at hfuel
      have hrest := ih (List.cons_ne_nil q more) (fun r hr => hnames r (List.mem_cons_of_mem p hr))
        (fun r hr => h r (List.mem_cons_of_mem p hr))
        (fun r hr => hreturns r (List.mem_cons_of_mem p hr)) (by omega : _ < fuel)
      rw [hspaced, List.append_assoc, List.cons_append, List.cons_append, writtenEntry_append,
        readMembers_comma (hname _) (hvalue (by decide) (by omega)), skipSpace_space,
        skipSpace_entries, hrest]
      rfl

/-! ### Plain values -/

/-- A word is read where it is written. -/
theorem readValue_word {fuel room : Nat} {c : Char} {cs : List Char} {v : Value} {rest : List Char}
    (hc : c ≠ '"' ∧ c ≠ '[' ∧ c ≠ '{') (h : readScalar (c :: cs) = .ok (v, rest)) :
    readValue (fuel + 1) room (c :: cs) = .ok (v, rest) := by
  obtain ⟨hquote, hbracket, hbrace⟩ := hc
  have hne : ∀ {d : Char}, c ≠ d → ∀ more, c :: cs = d :: more → False :=
    fun hd _ heq => hd (List.cons.inj heq).1
  rw [readValue.eq_9 _ _ _ (hne hquote) (hne hbracket) (hne hbrace), h]

/-- A plain value is read where it is written. -/
theorem Plain.returns {room : Nat} {v : Value} (h : Plain room v) : Returns room v := by
  -- By induction on how the value is made up; each bracket takes one character of the fuel.
  induction h with
  | null =>
    intro fuel rest hfuel _
    obtain ⟨fuel, rfl⟩ := Nat.exists_eq_add_one_of_ne_zero (Nat.ne_zero_of_lt hfuel)
    exact readValue_word (by decide) rfl
  | bool b =>
    intro fuel rest hfuel _
    cases b with
    | false =>
      obtain ⟨fuel, rfl⟩ := Nat.exists_eq_add_one_of_ne_zero (Nat.ne_zero_of_lt hfuel)
      exact readValue_word (by decide) rfl
    | true =>
      obtain ⟨fuel, rfl⟩ := Nat.exists_eq_add_one_of_ne_zero (Nat.ne_zero_of_lt hfuel)
      exact readValue_word (by decide) rfl
  | @int _ n hn =>
    intro fuel rest hfuel hstops
    have hread : readScalar (written (.int n) ++ rest) = .ok (.int n, rest) :=
      (readScalar_int n rest).trans (readNumber_toString hn hstops)
    obtain ⟨d, ds, hd, hwritten⟩ := exists_written_int n
    rcases hwritten with hwritten | hwritten
    · rw [hwritten] at hfuel hread ⊢
      obtain ⟨fuel, rfl⟩ := Nat.exists_eq_add_one_of_ne_zero (Nat.ne_zero_of_lt hfuel)
      exact readValue_word ⟨ne_of_isDigit hd (by decide), ne_of_isDigit hd (by decide),
        ne_of_isDigit hd (by decide)⟩ hread
    · rw [hwritten] at hfuel hread ⊢
      obtain ⟨fuel, rfl⟩ := Nat.exists_eq_add_one_of_ne_zero (Nat.ne_zero_of_lt hfuel)
      exact readValue_word (by decide) hread
  | @str _ s hs =>
    intro fuel rest hfuel _
    have hwritten : written (.str s) = '"' :: ((Text.codesOf s).flatMap escapeCode ++ ['"']) :=
      toList_renderString s
    rw [hwritten] at hfuel ⊢
    obtain ⟨fuel, rfl⟩ := Nat.exists_eq_add_one_of_ne_zero (Nat.ne_zero_of_lt hfuel)
    rw [List.cons_append, List.append_assoc, List.singleton_append, readValue,
      readString_renderString, hs]
    rfl
  | @list room items h ih =>
    intro fuel rest hfuel _
    rw [written_list, List.length_cons, List.length_append] at hfuel
    rw [written_list, List.cons_append, List.append_assoc, List.singleton_append]
    obtain ⟨fuel, rfl⟩ := Nat.exists_eq_add_one_of_ne_zero (Nat.ne_zero_of_lt hfuel)
    cases items with
    | nil => exact readValue.eq_4 _ _ _ _ (Nat.succ_ne_zero _) rfl
    | cons v more =>
      have hskip := skipSpace_items (h v List.mem_cons_self) more (']' :: rest)
      have hread := readItems_spaced (List.cons_ne_nil v more) h ih (Nat.lt_of_succ_le
        (Nat.le_of_succ_le_succ hfuel)) rest
      have hopen : ∀ after, skipSpace (spaced ((v :: more).map written) ++ ']' :: rest) =
          ']' :: after → False := by
        intro after heq
        obtain ⟨c, cs, hcs, _, hbracket⟩ := exists_written (h v List.mem_cons_self)
        rw [hskip, List.map_cons, hcs, spaced_append] at heq
        exact hbracket (List.cons.inj heq).1
      rw [readValue.eq_5 _ _ _ hopen, hskip, hread]
      rfl
  | @map room entries once names h ih =>
    intro fuel rest hfuel _
    rw [written_map, List.length_cons, List.length_append] at hfuel
    rw [written_map, List.cons_append, List.append_assoc, List.singleton_append]
    obtain ⟨fuel, rfl⟩ := Nat.exists_eq_add_one_of_ne_zero (Nat.ne_zero_of_lt hfuel)
    cases entries with
    | nil => exact readValue.eq_7 _ _ _ _ (Nat.succ_ne_zero _) rfl
    | cons p more =>
      have hskip := skipSpace_entries p more ('}' :: rest)
      have hread := readMembers_spaced (List.cons_ne_nil p more) names h ih (Nat.lt_of_succ_le
        (Nat.le_of_succ_le_succ hfuel)) rest
      have hopen : ∀ after, skipSpace (spaced ((p :: more).map writtenEntry) ++ '}' :: rest) =
          '}' :: after → False := by
        intro after heq
        obtain ⟨cs, hcs⟩ := exists_writtenEntry p
        rw [hskip, List.map_cons, hcs, spaced_append] at heq
        exact absurd (List.cons.inj heq).1 (by decide)
      rw [readValue.eq_8 _ _ _ hopen, hskip, hread]
      exact congrArg (fun v => Except.ok (v, rest)) (mapOf_named once)

/-- A plain value is read back from the text it is written as. -/
theorem Plain.read_render {room : Nat} {v : Value} (h : Plain room v) :
    read room (render v) = .ok v := by
  have hskip : skipSpace (written v) = written v := by
    have hskip := skipSpace_written h []
    rwa [List.append_nil] at hskip
  have hstops : Stops [] := fun c hc => absurd hc (Option.not_mem_none c)
  have hread := h.returns (2 * (written v).length + 2) [] (by omega) hstops
  rw [List.append_nil] at hread
  have hall : (render v).toList = written v := rfl
  rw [read, hall, hskip, hread]
  rfl

end LeafSwitch.Json
