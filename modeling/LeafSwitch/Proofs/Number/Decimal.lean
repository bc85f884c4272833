import LeafSwitch.Proofs.Number.Bounds
import LeafSwitch.Proofs.Text.Lines

/-!
# Whole numbers in decimal digits

A whole number is written by its decimal digits, with a minus in front of them if it is negative. As
long as it may be written out, it is read back from them.
-/

namespace LeafSwitch.Number

/-- The decimal digits of a number. -/
def digits (m : Nat) : List Char :=
  Nat.toDigits 10 m

/-- The digits of a number are digits. -/
theorem isDigit_of_mem_digits {m : Nat} {c : Char} (h : c ∈ digits m) : c.isDigit = true :=
  Nat.isDigit_of_mem_toDigits (by decide) (by decide) h

theorem digits_ne_nil (m : Nat) : digits m ≠ [] :=
  Nat.toDigits_ne_nil

/-- The digits of a number denote it. -/
theorem ofDigits_digits (m : Nat) : ofDigits 0 ((digits m).map fun c => c.toNat - 0x30) = m := by
  have hfold : ofDigits 0 ((digits m).map fun c => c.toNat - 0x30) =
      Nat.ofDigitChars 10 (digits m) 0 := by
    rw [ofDigits, List.foldl_map, Nat.ofDigitChars_eq_foldl]
    rfl
  rw [hfold]
  exact Nat.ofDigitChars_ten_toDigits

/-- A number that may be written out has no more digits than may be read. -/
theorem length_digits_le {m : Nat} (h : m < Value.shownLimit) :
    (digits m).length ≤ maxDigits := by
  obtain ⟨limit, hlimit⟩ : ∃ limit, maxDigits = limit := ⟨_, rfl⟩
  have hpos : 0 < limit := by
    rw [← hlimit]
    decide
  rw [shownLimit_eq hlimit] at h
  rw [hlimit]
  exact (Nat.length_toDigits_le_iff (by decide) hpos).mpr h

/-- How a whole number is written. -/
theorem toList_toString (n : Int) :
    (toString n).toList = (if n < 0 then ['-'] else []) ++ digits n.natAbs := by
  cases n with
  | ofNat m =>
    have hdigits : toString (Int.ofNat m) = String.ofList (digits m) := rfl
    have hsign : ¬Int.ofNat m < 0 := Int.not_lt.mpr (Int.natCast_nonneg m)
    rw [if_neg hsign, List.nil_append, hdigits]
    exact String.toList_ofList
  | negSucc m =>
    have hdigits : toString (Int.negSucc m) = "-" ++ String.ofList (digits (m + 1)) := rfl
    rw [if_pos (Int.negSucc_lt_zero m), hdigits, String.toList_append]
    exact congrArg (['-'] ++ ·) String.toList_ofList

/-! ### Reading digits -/

/-- A digit is a character from a narrow range. -/
theorem toNat_of_isDigit {c : Char} (h : c.isDigit = true) : 0x30 ≤ c.toNat ∧ c.toNat < 0x3A := by
  obtain ⟨hleast, hmost⟩ := Char.isDigit_iff_toNat.mp h
  exact ⟨hleast, Nat.lt_succ_of_le hmost⟩

/-- A digit stands for its distance from zero. -/
theorem digit?_of_isDigit {c : Char} (h : c.isDigit = true) :
    digit? c = some (c.toNat - 0x30) := by
  obtain ⟨hleast, hmost⟩ := toNat_of_isDigit h
  have hfound : zeros.find? (fun z => z ≤ c.toNat && c.toNat < z + 10) = some 0x30 := by
    refine List.find?_cons_of_pos ?_
    rw [decide_eq_true hleast, decide_eq_true hmost]
    rfl
  rw [digit?, hfound, Option.map_some]

/-- A digit is neither blank nor a sign. -/
theorem not_blank_of_isDigit {c : Char} (h : c.isDigit = true) :
    Text.isBlank c = false ∧ c ≠ '-' ∧ c ≠ '+' := by
  obtain ⟨hleast, hmost⟩ := toNat_of_isDigit h
  refine ⟨?_, ?_, ?_⟩
  · rw [Text.isBlank, Text.inRanges, Text.holds, List.any_eq_false]
    intro range hrange
    have hall : ∀ r ∈ Text.blankRanges, r.2 < 0x30 ∨ 0x3A ≤ r.1 := by decide
    have hapart := hall range hrange
    simp only [Bool.and_eq_true, decide_eq_true_eq, not_and, Nat.not_le]
    omega
  · rintro rfl
    exact absurd hleast (by decide)
  · rintro rfl
    exact absurd hleast (by decide)

/-- Digits alone are a run of digits with nothing behind it. -/
theorem digitRun_of_isDigit {cs : List Char} (h : ∀ c ∈ cs, c.isDigit = true) :
    digitRun cs = some (cs.map fun c => c.toNat - 0x30, []) := by
  induction cs with
  | nil => rfl
  | cons c cs ih =>
    obtain ⟨hc, hcs⟩ := List.forall_mem_cons.mp h
    rw [digitRun, digit?_of_isDigit hc, ih hcs]
    rfl

/-- A text without blanks has no padding at its ends. -/
theorem unpadded_of_not_blank {cs : List Char} (h : ∀ c ∈ cs, Text.isBlank c = false) :
    unpadded cs = cs := by
  have hpadding : ∀ c ∈ cs, ¬isPadding c = true := by
    intro c hc
    rw [isPadding, h c hc, Bool.false_and]
    exact Bool.false_ne_true
  have hdrop : cs.dropWhile isPadding = cs := by
    cases cs with
    | nil => rfl
    | cons c cs => exact List.dropWhile_cons_of_neg (hpadding c List.mem_cons_self)
  rw [unpadded, hdrop, Text.dropEndWhile]
  cases hrev : cs.reverse with
  | nil =>
    rw [List.reverse_eq_nil_iff.mp hrev]
    rfl
  | cons c rest =>
    have hc : c ∈ cs := List.mem_reverse.mp (hrev ▸ List.mem_cons_self)
    rw [List.dropWhile_cons_of_neg (hpadding c hc), ← hrev, List.reverse_reverse]

/-- A whole number is written without blanks. -/
theorem not_blank_of_mem_toString {n : Int} {c : Char} (h : c ∈ (toString n).toList) :
    Text.isBlank c = false := by
  rw [toList_toString] at h
  rcases List.mem_append.mp h with hsign | hdigit
  · split at hsign
    · rw [List.mem_singleton.mp hsign]
      decide
    · exact absurd hsign List.not_mem_nil
  · exact (not_blank_of_isDigit (isDigit_of_mem_digits hdigit)).1

/-- A whole number is written in one word. -/
theorem isWord_toString (n : Int) : Text.IsWord (toString n) where
  ne_empty hempty := by
    have hnil := congrArg String.toList hempty
    rw [toList_toString] at hnil
    exact digits_ne_nil _ (List.append_eq_nil_iff.mp hnil).2
  not_blank _ hc := not_blank_of_mem_toString hc

/-- A sign and digits are taken apart. -/
theorem takeSign_toString (n : Int) :
    takeSign (toString n).toList = (decide (n < 0), digits n.natAbs) := by
  rw [toList_toString]
  by_cases hneg : n < 0
  · rw [if_pos hneg, decide_eq_true hneg]
    rfl
  · obtain ⟨d, ds, hd⟩ := List.exists_cons_of_ne_nil (digits_ne_nil n.natAbs)
    have hdigit : d.isDigit = true := isDigit_of_mem_digits (hd ▸ List.mem_cons_self)
    obtain ⟨_, hminus, hplus⟩ := not_blank_of_isDigit hdigit
    rw [if_neg hneg, decide_eq_false hneg, List.nil_append, hd, takeSign.eq_def]
    split
    · exact absurd (List.cons.inj ‹_›).1 hminus
    · exact absurd (List.cons.inj ‹_›).1 hplus
    · rfl

/-- A whole number that may be written out is read back from what is written. -/
theorem readInteger_toString {n : Int} (h : n.natAbs < Value.shownLimit) :
    readInteger (toString n) = .ok n := by
  obtain ⟨d, ds, hd⟩ := List.exists_cons_of_ne_nil (digits_ne_nil n.natAbs)
  have hstart : startsWithDigit (digits n.natAbs) = true := by
    have hdigit : d.isDigit = true := isDigit_of_mem_digits (hd ▸ List.mem_cons_self)
    rw [hd, startsWithDigit, digit?_of_isDigit hdigit]
    rfl
  have hlong : ¬(digits n.natAbs).length > maxDigits := Nat.not_lt.mpr (length_digits_le h)
  rw [readInteger, unpadded_of_not_blank fun _ => not_blank_of_mem_toString, takeSign_toString]
  dsimp only
  rw [hstart, digitRun_of_isDigit fun _ => isDigit_of_mem_digits]
  simp only [Bool.not_true, Bool.false_eq_true, if_false, List.length_map, if_neg hlong,
    List.isEmpty_nil, ofDigits_digits, decide_eq_true_eq]
  split
  · exact congrArg Except.ok (by omega)
  · exact congrArg Except.ok (by omega)

end LeafSwitch.Number
