import LeafSwitch.Json.Printer
import LeafSwitch.Json.Reader
import LeafSwitch.Proofs.Number.Decimal

/-!
# Whole numbers in JSON

A whole number is written by its decimal digits and read back from them, as long as it may be
written out and nothing behind it goes on with the number.
-/

namespace LeafSwitch.Json

open Number (digits digits_ne_nil length_digits_le toList_toString)

/-- Behind a number, a text that does not go on with it. -/
def Stops (rest : List Char) : Prop :=
  ∀ c ∈ rest.head?, isDigit c = false ∧ c ≠ '.' ∧ c ≠ 'e' ∧ c ≠ 'E'

/-- The digits of a number are digits. -/
theorem isDigit_of_mem_digits {m : Nat} {c : Char} (h : c ∈ digits m) : isDigit c = true :=
  Number.isDigit_of_mem_digits h

/-- The digits of a number write it. -/
theorem numberOf_digits (m : Nat) : numberOf (digits m) = m :=
  Number.ofDigits_digits m

/-- The digits of a number begin with a zero only for zero itself. -/
theorem head_digits_ne {m : Nat} (h : 0 < m) : (digits m).head? ≠ some '0' := by
  induction m using Nat.strongRecOn with
  | ind m ih =>
    rw [digits, Nat.toDigits_eq_if (by decide)]
    split
    · rename_i hm
      rw [List.head?_cons, ne_eq, Option.some.injEq, Nat.digitChar_eq_zero]
      omega
    · have hq : (digits (m / 10)).head? ≠ some '0' := ih (m / 10) (by omega) (by omega)
      obtain ⟨d, ds, hd⟩ := List.exists_cons_of_ne_nil (digits_ne_nil (m / 10))
      rw [hd] at hq
      rw [digits] at hd
      rw [hd]
      exact hq

/-- The digits of a number are taken up to where the number stops. -/
theorem takeDigits_append {m : Nat} {rest : List Char} (h : Stops rest) :
    takeDigits (digits m ++ rest) = (digits m, rest) := by
  have hall : ∀ c ∈ digits m, isDigit c = true := fun c hc => isDigit_of_mem_digits hc
  have htake : rest.takeWhile isDigit = [] ∧ rest.dropWhile isDigit = rest := by
    cases rest with
    | nil => exact ⟨rfl, rfl⟩
    | cons c rest =>
      have hc := (h c rfl).1
      exact ⟨List.takeWhile_cons_of_neg (Bool.eq_false_iff.mp hc),
        List.dropWhile_cons_of_neg (Bool.eq_false_iff.mp hc)⟩
  rw [takeDigits, List.takeWhile_append_of_pos hall, List.dropWhile_append_of_pos hall, htake.1,
    htake.2, List.append_nil]

/-- Where a number stops, there is no fraction. -/
theorem takeFraction_of_stops {rest : List Char} (h : Stops rest) : takeFraction rest = none := by
  cases rest with
  | nil => rfl
  | cons c rest =>
    have hc := (h c rfl).2.1
    rw [takeFraction.eq_def]
    split
    · rename_i heq
      exact absurd (List.cons.inj heq).1 hc
    · rfl

/-- Where a number stops, there is no exponent. -/
theorem takeExponent_of_stops {rest : List Char} (h : Stops rest) : takeExponent rest = none := by
  cases rest with
  | nil => rfl
  | cons c rest =>
    obtain ⟨_, _, he, hE⟩ := h c rfl
    have hnone : (c == 'e' || c == 'E') = false := by
      rw [Bool.or_eq_false_iff, beq_eq_false_iff_ne, beq_eq_false_iff_ne]
      exact ⟨he, hE⟩
    rw [takeExponent, hnone, if_neg Bool.false_ne_true]

/-- The digits of a positive number, with anything behind them, begin with a digit that is no
zero. -/
theorem digits_append_ne {m : Nat} (h : 0 < m) (rest : List Char) {c : Char}
    (hc : c = '0' ∨ isDigit c = false) (more : List Char) : digits m ++ rest ≠ c :: more := by
  obtain ⟨d, ds, hd⟩ := List.exists_cons_of_ne_nil (digits_ne_nil m)
  have hdigit : isDigit d = true := isDigit_of_mem_digits (hd ▸ List.mem_cons_self)
  have hzero : (digits m).head? ≠ some '0' := head_digits_ne h
  rw [hd, List.head?_cons] at hzero
  rw [hd, List.cons_append]
  intro heq
  obtain ⟨rfl, _⟩ := List.cons.inj heq
  rcases hc with rfl | hc
  · exact hzero rfl
  · rw [hc] at hdigit
    exact Bool.false_ne_true hdigit

section Read

variable {m : Nat} {rest : List Char}

/-- What stands behind digits is left where the number stops. -/
theorem readNumber_zero (h : Stops rest) : readNumber ('0' :: rest) = .ok (.int 0, rest) := by
  rw [readNumber.eq_3]
  simp only [takeFraction_of_stops h, Option.map_none, Option.getD_none, takeExponent_of_stops h,
    Option.isNone_none, Bool.and_self, ite_true]
  rfl

/-- Digits behind a minus are read as a negative number. -/
theorem readNumber_minus (hpos : 0 < m) (hm : m < Value.shownLimit) (h : Stops rest) :
    readNumber ('-' :: (digits m ++ rest)) = .ok (.int (-m), rest) := by
  have hempty : ¬(digits m).isEmpty = true := by
    rw [List.isEmpty_iff]
    exact digits_ne_nil m
  have hlong : ¬(digits m).length > Number.maxDigits := Nat.not_lt.mpr (length_digits_le hm)
  rw [readNumber.eq_2 _ (digits_append_ne hpos rest (Or.inl rfl)), takeDigits_append h]
  simp only [if_neg hempty, takeFraction_of_stops h, Option.map_none, Option.getD_none,
    takeExponent_of_stops h, Option.isNone_none, Bool.and_self, ite_true, if_neg hlong,
    numberOf_digits]

/-- Digits are read as a number. -/
theorem readNumber_digits (hpos : 0 < m) (hm : m < Value.shownLimit) (h : Stops rest) :
    readNumber (digits m ++ rest) = .ok (.int m, rest) := by
  have hempty : ¬(digits m).isEmpty = true := by
    rw [List.isEmpty_iff]
    exact digits_ne_nil m
  have hlong : ¬(digits m).length > Number.maxDigits := Nat.not_lt.mpr (length_digits_le hm)
  rw [readNumber.eq_4 _ (digits_append_ne hpos rest (Or.inr rfl))
    (digits_append_ne hpos rest (Or.inl rfl)), takeDigits_append h]
  simp only [if_neg hempty, takeFraction_of_stops h, Option.map_none, Option.getD_none,
    takeExponent_of_stops h, Option.isNone_none, Bool.and_self, ite_true, if_neg hlong,
    numberOf_digits, if_neg Bool.false_ne_true]

end Read

/-- A whole number is read where it is written. -/
theorem readNumber_toString {n : Int} (hn : n.natAbs < Value.shownLimit) {rest : List Char}
    (h : Stops rest) : readNumber ((toString n).toList ++ rest) = .ok (.int n, rest) := by
  rw [toList_toString]
  rcases Int.lt_trichotomy n 0 with hneg | rfl | hpos
  · have hsize : n = -(n.natAbs : Int) := by omega
    rw [if_pos hneg, List.append_assoc, List.singleton_append,
      readNumber_minus (Int.natAbs_pos.mpr (Int.ne_of_lt hneg)) hn h, ← hsize]
  · exact readNumber_zero h
  · have hsize : n = (n.natAbs : Int) := by omega
    rw [if_neg (Int.not_lt.mpr (Int.le_of_lt hpos)), List.nil_append,
      readNumber_digits (Int.natAbs_pos.mpr (Int.ne_of_gt hpos)) hn h, ← hsize]

end LeafSwitch.Json
