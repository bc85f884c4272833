/-!
# Codes

A text is a sequence of codes: code points, and halves of pairs, which escapes may name one by one.
A half is no character, yet a text may hold it, and such a text differs from one with the character
that two halves would make. So a half is kept as two characters, a mark and the character `0xD0000`
above the half, and the mark is kept twice where it stands for itself. All other codes are kept as
themselves. Reading the codes of kept ones gives them back.
-/

namespace LeafSwitch.Text

/-- Whether a unit is the first half of a pair. -/
def isHigh (n : Nat) : Bool :=
  0xD800 ≤ n && n < 0xDC00

/-- Whether a unit is the second half of a pair. -/
def isLow (n : Nat) : Bool :=
  0xDC00 ≤ n && n < 0xE000

/-- Whether a code is a half of a pair. -/
def isHalf (n : Nat) : Bool :=
  isHigh n || isLow n

/-- The code of the mark before what is kept for a half; no character has it. -/
def markCode : Nat := 0xDFFFF

/-- The mark before what is kept for a half. -/
def mark : Char := Char.ofNat markCode

/-- How far above a half the character is that is kept for it. -/
def halfOffset : Nat := 0xD0000

/-- The characters that are kept for a code. -/
def kept (n : Nat) : List Char :=
  if isHalf n then [mark, Char.ofNat (halfOffset + n)]
  else if n = markCode then [mark, mark]
  else [Char.ofNat n]

/-- The code that a character is kept for behind a mark. -/
def markedCode (c : Char) : Nat :=
  let n := c.toNat - halfOffset
  if isHalf n then n else c.toNat

/-- The codes of kept characters. -/
def codes : List Char → List Nat
  | [] => []
  | [c] => [c.toNat]
  | c :: d :: rest =>
    if c = mark then markedCode d :: codes rest else c.toNat :: codes (d :: rest)

/-- The codes of a text. -/
def codesOf (s : String) : List Nat :=
  codes s.toList

/-- The text of codes. -/
def ofCodes (ns : List Nat) : String :=
  String.ofList (ns.flatMap kept)

/-- The characters of a text; a replacement character stands for a half. -/
def charsOf (s : String) : List Char :=
  (codesOf s).map fun n => if isHalf n then '\ufffd' else Char.ofNat n

/-- The text of characters, each of which stands for itself. -/
def ofChars (cs : List Char) : String :=
  ofCodes (cs.map Char.toNat)

/-- The text for one from outside, whose characters stand for themselves. -/
def received (s : String) : String :=
  ofChars s.toList

/-- A text as it goes outside. -/
def sent (s : String) : String :=
  String.ofList (charsOf s)

/-- The length of a text: how many codes it has. -/
def size (s : String) : Nat :=
  (codesOf s).length

/-! ### Codes are kept -/

/-- The character of a code that is no half has this code. -/
theorem toNat_ofNat {n : Nat} (bound : n < 0x110000) (whole : isHalf n = false) :
    (Char.ofNat n).toNat = n := by
  have valid : n.isValidChar := by
    simp only [isHalf, isHigh, isLow, Bool.or_eq_false_iff, Bool.and_eq_false_iff,
      decide_eq_false_iff_not] at whole
    simp only [Nat.isValidChar]
    omega
  have built : Char.ofNat n = Char.ofNatAux n valid := dif_pos valid
  rw [built]
  rfl

private theorem toNat_ofNat_offset {n : Nat} (half : isHalf n = true) :
    (Char.ofNat (halfOffset + n)).toNat = halfOffset + n := by
  simp only [isHalf, isHigh, isLow, Bool.or_eq_true, Bool.and_eq_true, decide_eq_true_eq] at half
  apply toNat_ofNat
  · simp only [halfOffset]
    omega
  · simp only [isHalf, isHigh, isLow, Bool.or_eq_false_iff, Bool.and_eq_false_iff,
      decide_eq_false_iff_not]
    simp only [halfOffset]
    omega

private theorem codes_cons {c : Char} (plain : c ≠ mark) (rest : List Char) :
    codes (c :: rest) = c.toNat :: codes rest := by
  cases rest with
  | nil => rfl
  | cons d rest => simp [codes, plain]

/-- Reading what is kept for a code gives the code, whatever follows. -/
theorem codes_kept_append {n : Nat} (bound : n < 0x110000) (rest : List Char) :
    codes (kept n ++ rest) = n :: codes rest := by
  cases half : isHalf n with
  | true =>
    have read : markedCode (Char.ofNat (halfOffset + n)) = n := by
      simp [markedCode, toNat_ofNat_offset half, half]
    simp [kept, half, codes, read]
  | false =>
    by_cases own : n = markCode
    · have read : markedCode mark = markCode := by decide
      subst own
      simp [kept, half, codes, read]
    · have plain : Char.ofNat n ≠ mark := fun same => own <| by
        have := congrArg Char.toNat same
        rwa [toNat_ofNat bound half] at this
      simp [kept, half, own, codes_cons plain, toNat_ofNat bound half]

/-- Reading the codes of the text of codes gives them back. -/
theorem codesOf_ofCodes {ns : List Nat} (bound : ∀ n ∈ ns, n < 0x110000) :
    codesOf (ofCodes ns) = ns := by
  simp only [codesOf, ofCodes, String.toList_ofList]
  induction ns with
  | nil => rfl
  | cons n ns ih =>
    rw [List.flatMap_cons, codes_kept_append (bound n List.mem_cons_self),
      ih fun m held => bound m (List.mem_cons_of_mem n held)]

end LeafSwitch.Text
