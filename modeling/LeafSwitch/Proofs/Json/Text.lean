import LeafSwitch.Json.Printer
import LeafSwitch.Json.Reader
import LeafSwitch.Proofs.Text.Whole
import Mathlib.Data.Bool.AllAny
import Mathlib.Tactic.SplitIfs

/-!
# JSON strings

A text written as a JSON string is read back, but for halves that stand next to each other: these
become the character that they make. Each code is written by itself, so it is enough to see what is
read for one code: a letter behind a backslash, the character itself, or the units of the code, of
which two are joined. A whole text holds no halves, so it is read back as it was.
-/

namespace LeafSwitch.Json

/-! ### Hexadecimal digits -/

/-- A digit that is written has its value. -/
theorem hexValue?_hexDigit {d : Nat} (h : d < 16) : hexValue? (Text.hexDigit d) = some d := by
  revert d
  decide

private theorem hexDigits_four (n : Nat) :
    Text.hexDigits 4 n = [Text.hexDigit (n / 4096 % 16), Text.hexDigit (n / 256 % 16),
      Text.hexDigit (n / 16 % 16), Text.hexDigit (n / 1 % 16)] := rfl

/-- A unit that is written in four digits is read. -/
theorem hexNumber?_hexDigits {n : Nat} (h : n < 0x10000) :
    hexNumber? (Text.hexDigits 4 n) = some n := by
  have hvalue : ∀ d, hexValue? (Text.hexDigit (d % 16)) = some (d % 16) := fun d =>
    hexValue?_hexDigit (Nat.mod_lt d (by decide))
  rw [hexDigits_four]
  simp only [hexNumber?, List.foldlM_cons, List.foldlM_nil, hvalue, Option.map_some,
    Option.bind_eq_bind, Option.bind_some, Option.pure_def, Option.some.injEq]
  omega

/-! ### Units -/

/-- The text that is read where a text is written. -/
def reread (s : String) : String :=
  Text.ofCodes (codesOfUnits (Text.codesOf s))

/-- A text that is read back as it was. -/
def Settled (s : String) : Prop :=
  reread s = s

theorem joined_eq (high low : Nat) :
    joined high low = 0x10000 + (high - 0xD800) * 0x400 + (low - 0xDC00) := rfl

/-- Two halves make a code beyond the basic plane. -/
theorem joined_bounds {high low : Nat} (h : (Text.isHigh high && Text.isLow low) = true) :
    0x10000 ≤ joined high low ∧ joined high low < 0x110000 := by
  rw [Bool.and_eq_true, Text.isHigh_iff, Text.isLow_iff] at h
  rw [joined_eq]
  omega

/-- The halves are the units of the code that they make. -/
theorem unitsOf_joined {high low : Nat} (h : (Text.isHigh high && Text.isLow low) = true) :
    unitsOf (joined high low) = [high, low] := by
  have hbounds := joined_bounds h
  rw [Bool.and_eq_true, Text.isHigh_iff, Text.isLow_iff] at h
  have hhigh : 0xD800 + (joined high low - 0x10000) / 0x400 = high := by
    rw [joined_eq]
    omega
  have hlow : 0xDC00 + (joined high low - 0x10000) % 0x400 = low := by
    rw [joined_eq]
    omega
  rw [unitsOf, if_neg (by omega), hhigh, hlow]

/-- Every code of ASCII is that of a character. -/
theorem exists_char {n : Nat} (h : n < 0x7F) : ∃ c : Char, c.toNat = n := by
  refine ⟨_, Text.toNat_ofNat (by omega) (Bool.eq_false_iff.mpr fun hhalf => ?_)⟩
  have hbounds := Text.isHalf_iff.mp hhalf
  omega

/-- A code beyond ASCII is written by its units. -/
theorem escapeCode_eq_units {n : Nat} (h : 0x7F ≤ n) :
    escapeCode n = (unitsOf n).flatMap fun unit => '\\' :: 'u' :: Text.hexDigits 4 unit := by
  have hother : ∀ c : Char, c.toNat < 0x7F → c ≠ '\x00' → (Char.ofNat n == c) = false := by
    intro c hc hzero
    refine beq_eq_false_iff_ne.mpr fun heq => ?_
    by_cases hn : n.isValidChar
    · have hbuilt : Char.ofNat n = Char.ofNatAux n hn := dif_pos hn
      have hcode : (Char.ofNat n).toNat = n := congrArg Char.toNat hbuilt
      rw [heq] at hcode
      omega
    · have hnone : Char.ofNat n = '\x00' := dif_neg hn
      exact hzero (heq.symm.trans hnone)
  have hplain : ¬(0x20 ≤ n && n < 0x7F) = true := by
    rw [Bool.and_eq_true, decide_eq_true_eq, decide_eq_true_eq]
    omega
  rw [escapeCode]
  simp only [hother '"' (by decide) (by decide), hother '\\' (by decide) (by decide),
    hother '\n' (by decide) (by decide), hother '\r' (by decide) (by decide),
    hother '\t' (by decide) (by decide), hother '\x08' (by decide) (by decide),
    hother '\x0c' (by decide) (by decide), Bool.or_self, Bool.false_eq_true, ite_false,
    if_neg hplain]

/-- A half is written as the unit that it is. -/
theorem escapeCode_half {n : Nat} (h : Text.isHalf n = true) :
    escapeCode n = '\\' :: 'u' :: Text.hexDigits 4 n := by
  have hbounds := Text.isHalf_iff.mp h
  rw [escapeCode_eq_units (by omega), unitsOf, if_pos (by omega), List.flatMap_singleton]

/-- Codes that are no halves stay. -/
theorem codesOfUnits_eq_self {ns : List Nat} (h : ∀ n ∈ ns, Text.isHalf n = false) :
    codesOfUnits ns = ns := by
  fun_induction codesOfUnits ns with
  | case1 => rfl
  | case2 n => rfl
  | case3 high low rest hpair ih =>
    have hhigh := h high List.mem_cons_self
    rw [Text.isHalf, Bool.or_eq_false_iff] at hhigh
    rw [hhigh.1, Bool.false_and] at hpair
    contradiction
  | case4 high low rest hpair ih =>
    rw [ih fun n hn => h n (List.mem_cons_of_mem high hn)]

/-- Joining halves makes no code larger than those of characters. -/
theorem codesOfUnits_lt {ns : List Nat} (h : ∀ n ∈ ns, n < 0x110000) :
    ∀ n ∈ codesOfUnits ns, n < 0x110000 := by
  fun_induction codesOfUnits ns with
  | case1 => exact h
  | case2 n => exact h
  | case3 high low rest hpair ih =>
    refine List.forall_mem_cons.mpr ⟨(joined_bounds hpair).2, ih fun n hn => h n ?_⟩
    exact List.mem_cons_of_mem high (List.mem_cons_of_mem low hn)
  | case4 high low rest hpair ih =>
    obtain ⟨hhigh, hrest⟩ := List.forall_mem_cons.mp h
    exact List.forall_mem_cons.mpr ⟨hhigh, ih hrest⟩

/-- Joining halves does not change what is written. -/
theorem flatMap_escapeCode_codesOfUnits (ns : List Nat) :
    (codesOfUnits ns).flatMap escapeCode = ns.flatMap escapeCode := by
  fun_induction codesOfUnits ns with
  | case1 => rfl
  | case2 n => rfl
  | case3 high low rest hpair ih =>
    have hbounds := joined_bounds hpair
    obtain ⟨hhigh, hlow⟩ := Bool.and_eq_true_iff.mp hpair
    have hhalf : Text.isHalf high = true := by rw [Text.isHalf, hhigh, Bool.true_or]
    have hhalf' : Text.isHalf low = true := by rw [Text.isHalf, hlow, Bool.or_true]
    rw [List.flatMap_cons, List.flatMap_cons, List.flatMap_cons, ih, escapeCode_half hhalf,
      escapeCode_half hhalf', escapeCode_eq_units (by omega), unitsOf_joined hpair,
      List.flatMap_cons, List.flatMap_singleton, List.append_assoc]
  | case4 high low rest hpair ih => rw [List.flatMap_cons, ih]; rfl

/-- The first code that is made is a second half only if the first unit is. -/
theorem head_codesOfUnits (n : Nat) (rest : List Nat) :
    ∃ m more, codesOfUnits (n :: rest) = m :: more ∧ (Text.isLow m = true → m = n) := by
  cases rest with
  | nil => exact ⟨n, [], rfl, fun _ => rfl⟩
  | cons l rest =>
    rw [codesOfUnits]
    split
    · rename_i hpair
      refine ⟨_, _, rfl, fun hlow => ?_⟩
      have hbounds := joined_bounds hpair
      have hlow' := Text.isLow_iff.mp hlow
      omega
    · exact ⟨_, _, rfl, fun _ => rfl⟩

/-- Once halves are joined, no two of them are left that could be. -/
theorem codesOfUnits_codesOfUnits (ns : List Nat) :
    codesOfUnits (codesOfUnits ns) = codesOfUnits ns := by
  fun_induction codesOfUnits ns with
  | case1 => rfl
  | case2 n => rfl
  | case3 high low rest hpair ih =>
    have hhigh : Text.isHigh (joined high low) = false := by
      have hbounds := joined_bounds hpair
      refine Bool.eq_false_iff.mpr fun hhigh => ?_
      have hhigh' := Text.isHigh_iff.mp hhigh
      omega
    cases hmore : codesOfUnits rest with
    | nil => rfl
    | cons m more =>
      rw [hmore] at ih
      rw [codesOfUnits, hhigh, Bool.false_and, if_neg Bool.false_ne_true, ih]
  | case4 high low rest hpair ih =>
    obtain ⟨m, more, hmore, hlow⟩ := head_codesOfUnits low rest
    rw [hmore] at ih ⊢
    have hapart : ¬(Text.isHigh high && Text.isLow m) = true := by
      intro hpair'
      rw [hlow (Bool.and_eq_true_iff.mp hpair').2] at hpair'
      exact hpair hpair'
    rw [codesOfUnits, if_neg hapart, ih]

/-- Pieces begin with a second half. -/
def startsLow : List Piece → Bool
  | .named n :: _ => Text.isLow n
  | _ => false

/-- Pieces that are read for a code, wherever it stands. -/
structure Reads (n : Nat) (pieces : List Piece) : Prop where
  /-- The pieces stand where the code is written. -/
  found : ∀ cs, stringPieces (escapeCode n ++ cs) =
    (stringPieces cs).map fun (more, after) => (pieces ++ more, after)
  /-- They make the code again, if it is not joined with what comes next. -/
  kept : ∀ more, (Text.isHigh n && startsLow more) = false →
    ofPieces (pieces ++ more) = Text.kept n ++ ofPieces more
  /-- They begin with a second half where the code is one. -/
  starts : ∀ more, startsLow (pieces ++ more) = Text.isLow n

/-! ### Single codes -/

private theorem stringPieces_named {unit : Nat} (h : unit < 0x10000) (cs : List Char) :
    stringPieces ('\\' :: 'u' :: Text.hexDigits 4 unit ++ cs) =
      (stringPieces cs).map fun (more, after) => (.named unit :: more, after) := by
  have hread := hexNumber?_hexDigits h
  rw [hexDigits_four] at hread ⊢
  simp only [List.cons_append, List.nil_append, stringPieces.eq_3, hread]
  cases stringPieces cs <;> rfl

private theorem stringPieces_letter {letter c : Char} (h : escaped? letter = some c)
    (cs : List Char) :
    stringPieces ('\\' :: letter :: cs) =
      (stringPieces cs).map fun (more, after) => (.plain c :: more, after) := by
  have hletter : letter ≠ 'u' := by
    rintro rfl
    have hnone : escaped? 'u' = none := by decide
    rw [hnone] at h
    contradiction
  rw [stringPieces.eq_4 _ _ fun _ _ _ _ _ hu _ => hletter hu, h]
  cases stringPieces cs <;> rfl

private theorem stringPieces_plain {c : Char} (hquote : c ≠ '"') (hslash : c ≠ '\\')
    (hspace : ¬c.toNat < 0x20) (cs : List Char) :
    stringPieces (c :: cs) =
      (stringPieces cs).map fun (more, after) => (.plain c :: more, after) := by
  rw [stringPieces.eq_5 _ _ hquote (fun _ _ _ _ _ h _ => hslash h) (fun _ _ h _ => hslash h),
    if_neg hspace]
  cases stringPieces cs <;> rfl

private theorem ofPieces_named {n : Nat} {more : List Piece}
    (h : (Text.isHigh n && startsLow more) = false) :
    ofPieces (.named n :: more) = Text.kept n ++ ofPieces more := by
  cases more with
  | nil => rfl
  | cons piece rest =>
    cases piece with
    | plain c => rfl
    | named l =>
      have hapart : (Text.isHigh n && Text.isLow l) = false := h
      rw [ofPieces.eq_2, hapart, if_neg Bool.false_ne_true]

/-- A code that is written as a letter behind a backslash is read. -/
private theorem reads_letter {n : Nat} {letter c : Char} (hcode : escapeCode n = ['\\', letter])
    (h : escaped? letter = some c) (hn : n < 0x80) (hkept : Text.kept n = [c]) :
    Reads n [.plain c] where
  found cs := by
    rw [hcode]
    exact stringPieces_letter h cs
  kept more _ := by
    rw [hkept]
    rfl
  starts _ := (Text.isLow_eq_false (by omega)).symm

/-- A code of one unit is read from the unit. -/
private theorem reads_unit {n : Nat} (hcode : escapeCode n = '\\' :: 'u' :: Text.hexDigits 4 n)
    (hn : n < 0x10000) : Reads n [.named n] where
  found cs := by
    rw [hcode]
    exact stringPieces_named hn cs
  kept _ hmore := ofPieces_named hmore
  starts _ := rfl

/-- Halves that are named next to each other are joined. -/
theorem ofPieces_pair {high low : Nat} (h : (Text.isHigh high && Text.isLow low) = true)
    (more : List Piece) :
    ofPieces (.named high :: .named low :: more) =
      Text.kept (joined high low) ++ ofPieces more := by
  rw [ofPieces.eq_2, if_pos h]

/-- A code of two units is read from both of them. -/
private theorem reads_pair {n : Nat} (hbound : n < 0x110000) (hn : ¬n < 0x10000) :
    Reads n ((unitsOf n).map .named) := by
  obtain ⟨high, hhigh⟩ : ∃ high, high = 0xD800 + (n - 0x10000) / 0x400 := ⟨_, rfl⟩
  obtain ⟨low, hlow⟩ : ∃ low, low = 0xDC00 + (n - 0x10000) % 0x400 := ⟨_, rfl⟩
  have hunits : unitsOf n = [high, low] := by
    rw [unitsOf, if_neg hn, hhigh, hlow]
  have hcode := escapeCode_eq_units (n := n) (by omega)
  have hhigh' : high < 0x10000 := by omega
  have hlow' : low < 0x10000 := by omega
  have hhalves : (Text.isHigh high && Text.isLow low) = true := by
    rw [Bool.and_eq_true, Text.isHigh_iff, Text.isLow_iff]
    omega
  have hjoined : joined high low = n := by
    rw [joined_eq]
    omega
  rw [hunits] at hcode ⊢
  refine ⟨fun cs => ?_, fun more _ => ?_, fun more => ?_⟩
  · rw [hcode, List.flatMap_cons, List.flatMap_singleton, List.append_assoc,
      stringPieces_named hhigh', stringPieces_named hlow']
    cases stringPieces cs <;> rfl
  · rw [← hjoined]
    exact ofPieces_pair hhalves more
  · rw [Text.isLow_eq_false (by omega)]
    exact Text.isLow_eq_false (n := high) (by omega)

/-- Every code is read where it is written. -/
theorem exists_reads {n : Nat} (h : n < 0x110000) : ∃ pieces, Reads n pieces := by
  by_cases hascii : n < 0x7F
  · obtain ⟨c, rfl⟩ := exists_char hascii
    have hn : c.toNat < 0x80 := by omega
    have hkept : Text.kept c.toNat = [c] := by
      apply Text.kept_toNat
      rintro rfl
      revert hn
      decide
    have hcode := escapeCode.eq_1 c.toNat
    rw [Char.ofNat_toNat] at hcode
    split_ifs at hcode with hself hfeed hreturn htab hback hform hplain
    · refine ⟨_, reads_letter (c := c) hcode ?_ hn hkept⟩
      rw [Bool.or_eq_true, beq_iff_eq, beq_iff_eq] at hself
      rcases hself with rfl | rfl <;> decide
    · obtain rfl := beq_iff_eq.mp hfeed
      exact ⟨_, reads_letter hcode (c := '\n') (by decide) hn hkept⟩
    · obtain rfl := beq_iff_eq.mp hreturn
      exact ⟨_, reads_letter hcode (c := '\r') (by decide) hn hkept⟩
    · obtain rfl := beq_iff_eq.mp htab
      exact ⟨_, reads_letter hcode (c := '\t') (by decide) hn hkept⟩
    · obtain rfl := beq_iff_eq.mp hback
      exact ⟨_, reads_letter hcode (c := '\x08') (by decide) hn hkept⟩
    · obtain rfl := beq_iff_eq.mp hform
      exact ⟨_, reads_letter hcode (c := '\x0c') (by decide) hn hkept⟩
    · rw [Bool.and_eq_true, decide_eq_true_eq, decide_eq_true_eq] at hplain
      rw [Bool.or_eq_true, beq_iff_eq, beq_iff_eq, not_or] at hself
      refine ⟨[.plain c], fun cs => ?_, fun more _ => ?_, fun _ => ?_⟩
      · rw [hcode]
        exact stringPieces_plain hself.1 hself.2 (by omega) cs
      · rw [hkept]
        rfl
      · exact (Text.isLow_eq_false (by omega)).symm
    · rw [unitsOf, if_pos (by omega), List.flatMap_singleton] at hcode
      exact ⟨_, reads_unit hcode (by omega)⟩
  · by_cases hn : n < 0x10000
    · have hcode := escapeCode_eq_units (n := n) (by omega)
      rw [unitsOf, if_pos hn, List.flatMap_singleton] at hcode
      exact ⟨_, reads_unit hcode hn⟩
    · exact ⟨_, reads_pair h hn⟩

/-! ### Strings -/

/-- A code is read before others that it is not joined with. -/
theorem Reads.stringPieces_append {n : Nat} {pieces more : List Piece} {cs rest : List Char}
    (h : Reads n pieces) (hmore : stringPieces cs = some (more, rest))
    (hapart : (Text.isHigh n && startsLow more) = false) :
    stringPieces (escapeCode n ++ cs) = some (pieces ++ more, rest) ∧
      ofPieces (pieces ++ more) = Text.kept n ++ ofPieces more := by
  refine ⟨?_, h.kept more hapart⟩
  rw [h.found, hmore]
  rfl

/-- Codes that are written one after another are read up to the closing quote, and halves that stand
next to each other are joined. -/
theorem exists_stringPieces {ns : List Nat} (h : ∀ n ∈ ns, n < 0x110000) (rest : List Char) :
    ∃ pieces, stringPieces (ns.flatMap escapeCode ++ '"' :: rest) = some (pieces, rest) ∧
      ofPieces pieces = (codesOfUnits ns).flatMap Text.kept ∧
      startsLow pieces = ns.head?.any Text.isLow := by
  have hclosed : stringPieces ('"' :: rest) = some ([], rest) := stringPieces.eq_2 rest
  -- By induction along the joining of halves, which looks at two codes at a time.
  fun_induction codesOfUnits ns with
  | case1 => exact ⟨[], hclosed, rfl, rfl⟩
  | case2 n =>
    obtain ⟨pieces, hreads⟩ := exists_reads (h n List.mem_cons_self)
    obtain ⟨hfound, hkept⟩ := hreads.stringPieces_append hclosed (Bool.and_false _)
    refine ⟨pieces ++ [], ?_, ?_, hreads.starts []⟩
    · rw [List.flatMap_singleton]
      exact hfound
    · rw [hkept, List.flatMap_singleton]
      exact List.append_nil _
  | case3 high low ns hpair ih =>
    obtain ⟨more, hmore, hkept, _⟩ := ih fun n hn =>
      h n (List.mem_cons_of_mem high (List.mem_cons_of_mem low hn))
    obtain ⟨hhigh, hlow⟩ := Bool.and_eq_true_iff.mp hpair
    have hhigh' := Text.isHigh_iff.mp hhigh
    have hlow' := Text.isLow_iff.mp hlow
    refine ⟨.named high :: .named low :: more, ?_, ?_, rfl⟩
    · rw [List.flatMap_cons, List.flatMap_cons, escapeCode_half (Text.isHalf_iff.mpr (by omega)),
        escapeCode_half (Text.isHalf_iff.mpr (by omega)), List.append_assoc, List.append_assoc,
        stringPieces_named (by omega), stringPieces_named (by omega), hmore]
      rfl
    · rw [ofPieces_pair hpair, hkept, List.flatMap_cons]
  | case4 high low ns hpair ih =>
    obtain ⟨more, hmore, hkept, hstarts⟩ := ih fun n hn => h n (List.mem_cons_of_mem high hn)
    obtain ⟨pieces, hreads⟩ := exists_reads (h high List.mem_cons_self)
    have hapart : (Text.isHigh high && startsLow more) = false := by
      rw [hstarts]
      exact Bool.eq_false_iff.mpr hpair
    obtain ⟨hfound, hkept'⟩ := hreads.stringPieces_append hmore hapart
    refine ⟨pieces ++ more, ?_, ?_, hreads.starts more⟩
    · rw [List.flatMap_cons, List.append_assoc]
      exact hfound
    · rw [hkept', hkept, List.flatMap_cons]

/-- A text is read where it is written, behind its opening quote. -/
theorem readString_renderString (s : String) (rest : List Char) :
    readString ((Text.codesOf s).flatMap escapeCode ++ '"' :: rest) = .ok (reread s, rest) := by
  have hcodes : ∀ n ∈ Text.codesOf s, n < 0x110000 := Text.codes_lt
  obtain ⟨pieces, hread, hkept, _⟩ := exists_stringPieces hcodes rest
  rw [readString, hread]
  dsimp only
  rw [hkept]
  rfl

/-- A whole text is read back as it was. -/
theorem settled_of_whole {s : String} (h : Text.Whole s) : Settled s := by
  rw [Settled, reread, codesOfUnits_eq_self fun n hn => (h.isWhole n hn).2]
  exact h.ofCodes_codesOf

/-- The codes of a text that is read are those written, with halves joined. -/
theorem codesOf_reread (s : String) : Text.codesOf (reread s) = codesOfUnits (Text.codesOf s) :=
  Text.codesOf_ofCodes (codesOfUnits_lt Text.codes_lt)

/-- A text that has been read is read back as it was. -/
theorem settled_reread (s : String) : Settled (reread s) := by
  rw [Settled, reread, codesOf_reread, codesOfUnits_codesOfUnits]
  rfl

/-- A text that has been read is written as it was written before. -/
theorem renderString_reread (s : String) : renderString (reread s) = renderString s := by
  rw [renderString, codesOf_reread, flatMap_escapeCode_codesOfUnits]
  rfl

/-! ### What is written -/

/-- A printable character of ASCII. -/
def Printable (c : Char) : Prop :=
  0x20 ≤ c.toNat ∧ c.toNat < 0x7F

instance : DecidablePred Printable := fun c =>
  inferInstanceAs (Decidable (0x20 ≤ c.toNat ∧ c.toNat < 0x7F))

/-- A printable character ends no line. -/
theorem Printable.not_lineBoundary {c : Char} (h : Printable c) :
    Text.isLineBoundary c = false := by
  have hboundary : ∀ d : Char, Text.isLineBoundary d = true → ¬Printable d := by
    intro d hd
    simp only [Text.isLineBoundary, Bool.or_eq_true, beq_iff_eq] at hd
    rcases hd with ((((((((rfl | rfl) | rfl) | rfl) | rfl) | rfl) | rfl) | rfl) | rfl) | rfl <;>
      decide
  exact Bool.eq_false_iff.mpr fun hd => hboundary c hd h

/-- Hexadecimal digits are printable. -/
theorem printable_hexDigits {c : Char} {width n : Nat} (h : c ∈ Text.hexDigits width n) :
    Printable c := by
  have hdigit : ∀ d < 16, Printable (Text.hexDigit d) := by decide
  obtain ⟨i, _, rfl⟩ := List.mem_map.mp h
  exact hdigit _ (Nat.mod_lt _ (by decide))

/-- Units are written in printable characters. -/
theorem printable_units (units : List Nat) :
    ∀ c ∈ units.flatMap fun unit => '\\' :: 'u' :: Text.hexDigits 4 unit, Printable c := by
  intro c hc
  obtain ⟨unit, _, hc⟩ := List.mem_flatMap.mp hc
  rcases List.mem_cons.mp hc with rfl | hc
  · decide
  rcases List.mem_cons.mp hc with rfl | hc
  · decide
  · exact printable_hexDigits hc

/-- What is written for a code is printable. -/
theorem printable_escapeCode (n : Nat) : ∀ d ∈ escapeCode n, Printable d := by
  by_cases hascii : n < 0x7F
  · obtain ⟨c, rfl⟩ := exists_char hascii
    rw [escapeCode, Char.ofNat_toNat]
    split_ifs with hself hfeed hreturn htab hback hform hplain
    · rw [Bool.or_eq_true, beq_iff_eq, beq_iff_eq] at hself
      rcases hself with rfl | rfl
      · exact List.all_iff_forall_prop.mp (by decide)
      · exact List.all_iff_forall_prop.mp (by decide)
    · exact List.all_iff_forall_prop.mp (by decide)
    · exact List.all_iff_forall_prop.mp (by decide)
    · exact List.all_iff_forall_prop.mp (by decide)
    · exact List.all_iff_forall_prop.mp (by decide)
    · exact List.all_iff_forall_prop.mp (by decide)
    · rw [Bool.and_eq_true, decide_eq_true_eq, decide_eq_true_eq] at hplain
      intro d hd
      obtain rfl := List.mem_singleton.mp hd
      exact hplain
    · exact printable_units _
  · rw [escapeCode_eq_units (by omega)]
    exact printable_units _

/-- What is written for a text is printable. -/
theorem printable_renderString (s : String) : ∀ c ∈ (renderString s).toList, Printable c := by
  rw [renderString, String.toList_ofList]
  intro c hc
  rcases List.mem_append.mp hc with hc | hc
  · rcases List.mem_cons.mp hc with rfl | hc
    · decide
    · obtain ⟨n, _, hc⟩ := List.mem_flatMap.mp hc
      exact printable_escapeCode n c hc
  · obtain rfl := List.mem_singleton.mp hc
    decide

end LeafSwitch.Json
