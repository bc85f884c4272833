import LeafSwitch.Proofs.Time.Calendar
import Mathlib.Data.String.Basic

/-!
# Times in text

Numbers of a fixed width come in the order of their digits, and dates in the order of their days, so
the texts of instants come in the order of the instants. Two instants have one text exactly if they
fall into one millisecond.
-/

namespace LeafSwitch.Time

/-! ### Numbers of a fixed width -/

/-- The last decimal digits of a number, so many of them. -/
def decimals : Nat → Nat → List Char
  | 0, _ => []
  | width + 1, n => decimals width (n / 10) ++ [(n % 10).digitChar]

theorem length_decimals (width n : Nat) : (decimals width n).length = width := by
  induction width generalizing n with
  | zero => rfl
  | succ width ih => rw [decimals, List.length_append, ih, List.length_singleton]

/-- Zero is all zeros. -/
theorem decimals_zero (width : Nat) : decimals width 0 = List.replicate width '0' := by
  induction width with
  | zero => rfl
  | succ width ih =>
    rw [decimals, Nat.zero_div, ih, List.replicate_succ']
    rfl

/-- The digits of a number, filled up with zeros, are its last digits where there are no others. -/
theorem toList_padded {width n : Nat} (hwidth : 0 < width) (h : n < 10 ^ width) :
    (Instant.padded width n).toList = decimals width n := by
  rw [Instant.padded, String.toList_ofList]
  induction width generalizing n with
  | zero => exact absurd hwidth (Nat.lt_irrefl 0)
  | succ width ih =>
    rw [decimals, Nat.toDigits_eq_if (by decide)]
    split
    · rename_i hn
      rw [Nat.div_eq_of_lt hn, Nat.mod_eq_of_lt hn, decimals_zero, List.length_singleton,
        Nat.add_sub_cancel]
    · rename_i hn
      have hrest : n / 10 < 10 ^ width := by
        rw [pow_succ] at h
        omega
      have hmore : 0 < width := by
        by_contra hzero
        have hone : 10 ^ width = 1 := by rw [Nat.eq_zero_of_not_pos hzero, pow_zero]
        omega
      rw [← ih hmore hrest, List.length_append, List.length_singleton, Nat.add_sub_add_right,
        List.append_assoc]

/-- What stands behind equally long texts counts where these are the same. -/
theorem append_lt_append_iff {a b : List Char} (h : a.length = b.length) {c d : List Char} :
    a ++ c < b ++ d ↔ a < b ∨ a = b ∧ c < d := by
  induction a generalizing b with
  | nil =>
    obtain rfl := List.eq_nil_of_length_eq_zero h.symm
    simp
  | cons x a ih =>
    cases b with
    | nil => exact absurd h (Nat.succ_ne_zero _)
    | cons y b =>
      rw [List.cons_append, List.cons_append, List.cons_lt_cons_iff, List.cons_lt_cons_iff,
        ih (Nat.succ.inj h), List.cons.injEq]
      tauto

/-- Numbers of a fixed width come in the order of their digits. -/
theorem strictMonoOn_decimals (width : Nat) :
    StrictMonoOn (decimals width) (Set.Iio (10 ^ width)) := by
  induction width with
  | zero =>
    intro m _ n hn hlt
    rw [pow_zero, Set.mem_Iio] at hn
    omega
  | succ width ih =>
    intro m hm n hn hlt
    rw [pow_succ, Set.mem_Iio] at hm hn
    rw [decimals, decimals, append_lt_append_iff (by rw [length_decimals, length_decimals])]
    rcases Nat.lt_or_eq_of_le (Nat.div_le_div_right (c := 10) hlt.le) with hfront | hfront
    · exact Or.inl (ih (Set.mem_Iio.mpr (by omega)) (Set.mem_Iio.mpr (by omega)) hfront)
    · have hdigit : ∀ a < 10, ∀ b < a, b.digitChar < a.digitChar := by decide
      have hlast := hdigit (n % 10) (Nat.mod_lt n (by decide)) (m % 10) (by omega)
      rw [hfront]
      exact Or.inr ⟨rfl, List.cons_lt_cons_iff.mpr (Or.inl hlast)⟩

/-- A number in front of a sign decides about the order unless the numbers are the same. -/
theorem padded_append_lt_iff {width m n : Nat} (hwidth : 0 < width) (hm : m < 10 ^ width)
    (hn : n < 10 ^ width) (c : Char) {rest more : List Char} :
    (Instant.padded width m).toList ++ c :: rest < (Instant.padded width n).toList ++ c :: more ↔
      m < n ∨ m = n ∧ rest < more := by
  have hmono := strictMonoOn_decimals width
  rw [toList_padded hwidth hm, toList_padded hwidth hn,
    append_lt_append_iff (by rw [length_decimals, length_decimals]), hmono.lt_iff_lt hm hn,
    hmono.eq_iff_eq hm hn, List.cons_lt_cons_iff]
  simp only [lt_irrefl, false_or, true_and]

/-- The characters of a date. -/
theorem Date.toList_text (d : Date) :
    d.text.toList = (Instant.padded 4 d.year).toList ++ '-' ::
      ((Instant.padded 2 d.month).toList ++ '-' :: (Instant.padded 2 d.day).toList) := by
  have hdash : "-".toList = ['-'] := rfl
  simp only [Date.text, String.toList_append, hdash, List.append_assoc, List.cons_append,
    List.nil_append]

/-- The numbers of a date of the calendar have two digits behind the year. -/
theorem Date.IsValid.two_digits {d : Date} (hd : d.IsValid) :
    d.month < 10 ^ 2 ∧ d.day < 10 ^ 2 := by
  have hmonth := hd.month_le
  have hday := hd.day_le.trans (monthLength_le _ _)
  omega

/-- A date in front of a sign decides about the order unless the dates are the same. -/
theorem dateText_append_lt_iff {d e : Date} (hd : d.IsValid) (he : e.IsValid)
    (hyear : d.year < 10000) (hyear' : e.year < 10000) (c : Char) {rest more : List Char} :
    d.text.toList ++ c :: rest < e.text.toList ++ c :: more ↔
      d.Precedes e ∨ d = e ∧ rest < more := by
  simp only [Date.toList_text, List.append_assoc, List.cons_append]
  rw [padded_append_lt_iff (by decide) hyear hyear',
    padded_append_lt_iff (by decide) hd.two_digits.1 he.two_digits.1,
    padded_append_lt_iff (by decide) hd.two_digits.2 he.two_digits.2, Date.Precedes, Date.eq_iff]
  simp only [and_or_left, or_assoc, and_assoc]

namespace Instant

variable {i j : Instant}

/-! ### What a text shows -/

/-- A day is over before its microseconds are. -/
theorem timeOfDay_lt (i : Instant) : i.timeOfDay < 86400000000 := by
  rw [timeOfDay, microsPerDay]
  omega

/-- The milliseconds since the beginning of year 1 are days and those of the last one. -/
theorem millis_eq (h : i.inRange = true) :
    i.micros / 1000 + epochDay * 86400000 =
      i.date.dayNumber * 86400000 + (i.timeOfDay / 1000 : Nat) := by
  rw [inRange, Bool.and_eq_true, decide_eq_true_eq, decide_eq_true_eq] at h
  rw [date, (Date.ofDayNumber_spec _).2, timeOfDay]
  simp only [sinceYearOne, microsPerDay, epochDay] at h ⊢
  omega

/-- The date of an instant is one of the calendar. -/
theorem date_isValid (i : Instant) : i.date.IsValid :=
  (Date.ofDayNumber_spec _).1

/-- The year of an instant has no more than four digits. -/
theorem date_year_lt (h : i.inRange = true) : i.date.year < 10000 := by
  rw [inRange, Bool.and_eq_true, decide_eq_true_eq, decide_eq_true_eq] at h
  refine Date.year_ofDayNumber_lt ?_
  simp only [microsPerDay] at h ⊢
  omega

/-- The characters of a time of day, with three digits for the milliseconds. -/
def clock (micros : Nat) : List Char :=
  (padded 2 (micros / 1000000 / 3600)).toList ++ ':' ::
    ((padded 2 (micros / 1000000 / 60 % 60)).toList ++ ':' ::
      ((padded 2 (micros / 1000000 % 60)).toList ++ '.' ::
        ((padded 3 (micros % 1000000 / 1000)).toList ++ ['Z'])))

/-- A text is a date and a time of day. -/
theorem toList_text (i : Instant) :
    i.text.toList = i.date.text.toList ++ 'T' :: clock i.timeOfDay := by
  have hsigns : "T".toList = ['T'] ∧ ":".toList = [':'] ∧ ".".toList = ['.'] ∧
    "Z".toList = ['Z'] := ⟨rfl, rfl, rfl, rfl⟩
  simp only [text, secondsText, Date.text, clock, String.toList_append, hsigns, List.append_assoc,
    List.cons_append, List.nil_append]

/-- Times of day come in the order of their milliseconds. -/
theorem clock_lt_iff {a b : Nat} (ha : a < 86400000000) (hb : b < 86400000000) :
    clock a < clock b ↔ a / 1000 < b / 1000 := by
  rw [clock, clock, padded_append_lt_iff (by decide) (by omega) (by omega),
    padded_append_lt_iff (by decide) (by omega) (by omega),
    padded_append_lt_iff (by decide) (by omega) (by omega),
    padded_append_lt_iff (by decide) (by omega) (by omega)]
  simp only [List.not_lt_nil, and_false, or_false]
  omega

/-- Milliseconds come in the order of dates and of times of day. -/
theorem millis_lt_iff_precedes (hi : i.inRange = true) (hj : j.inRange = true) :
    i.micros / 1000 < j.micros / 1000 ↔
      i.date.Precedes j.date ∨ i.date = j.date ∧ i.timeOfDay / 1000 < j.timeOfDay / 1000 := by
  have hmillis := millis_eq hi
  have hmillis' := millis_eq hj
  have htime := i.timeOfDay_lt
  have htime' := j.timeOfDay_lt
  rw [i.date_isValid.precedes_iff j.date_isValid]
  rcases i.date.precedes_or_eq_or j.date with hbefore | hsame | hbehind
  · have hlt := i.date_isValid.dayNumber_lt hbefore
    omega
  · have hsame' := congrArg Date.dayNumber hsame
    simp only [hsame, true_and]
    omega
  · have hlt := j.date_isValid.dayNumber_lt hbehind
    have hne : i.date ≠ j.date := by
      intro hsame
      rw [hsame] at hlt
      exact Nat.lt_irrefl _ hlt
    simp only [hne, false_and, or_false]
    omega

/-- Texts come in the order of the milliseconds that they show. -/
theorem text_lt_iff (hi : i.inRange = true) (hj : j.inRange = true) :
    i.text < j.text ↔ i.micros / 1000 < j.micros / 1000 := by
  rw [String.lt_iff_toList_lt, toList_text, toList_text,
    dateText_append_lt_iff i.date_isValid j.date_isValid (date_year_lt hi) (date_year_lt hj),
    clock_lt_iff i.timeOfDay_lt j.timeOfDay_lt, millis_lt_iff_precedes hi hj]

/-- Instants have one text exactly if they fall into one millisecond. -/
theorem text_eq_iff (hi : i.inRange = true) (hj : j.inRange = true) :
    i.text = j.text ↔ i.micros / 1000 = j.micros / 1000 := by
  rw [le_antisymm_iff, le_antisymm_iff, ← not_lt, ← not_lt, ← not_lt, ← not_lt,
    text_lt_iff hi hj, text_lt_iff hj hi]

end Instant

end LeafSwitch.Time
