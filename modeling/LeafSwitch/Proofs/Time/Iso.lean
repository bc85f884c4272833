import LeafSwitch.Proofs.Text.Lines
import LeafSwitch.Proofs.Time.Text
import LeafSwitch.Time.Written

/-!
# Reading a time again

The text of an instant is one of ISO 8601 in universal time. It shows as much of the instant as a
clock with milliseconds does, and reading it gives the instant with the rest cut off.
-/

namespace LeafSwitch.Time

variable {i : Instant}

/-! ### Numbers of a fixed width -/

/-- Decimal digits are digits. -/
theorem isPlainDigit_of_mem_decimals {width n : Nat} {c : Char} (h : c ∈ decimals width n) :
    isPlainDigit c = true := by
  induction width generalizing n with
  | zero => exact absurd h List.not_mem_nil
  | succ width ih =>
    rw [decimals, List.mem_append, List.mem_singleton] at h
    rcases h with hfront | rfl
    · exact ih hfront
    · have hdigit : ∀ k < 10, isPlainDigit k.digitChar = true := by decide
      exact hdigit _ (Nat.mod_lt n (by decide))

/-- Decimal digits write their number, if it has no more. -/
theorem digitsNumber_decimals {width n : Nat} (h : n < 10 ^ width) :
    digitsNumber (decimals width n) = n := by
  induction width generalizing n with
  | zero => exact (Nat.lt_one_iff.mp h).symm
  | succ width ih =>
    have hdigit : ∀ k < 10, k.digitChar.toNat - 0x30 = k := by decide
    have hrest : n / 10 < 10 ^ width := by
      rw [pow_succ] at h
      omega
    have hfront := ih hrest
    rw [digitsNumber] at hfront
    rw [digitsNumber, decimals, List.foldl_append, hfront, List.foldl_cons, List.foldl_nil,
      hdigit _ (Nat.mod_lt n (by decide))]
    omega

/-- A number of a fixed width is read as itself. -/
theorem digitsOf_padded {least most width n : Nat} (hwidth : 0 < width) (h : n < 10 ^ width)
    (hleast : least ≤ width) (hmost : width ≤ most) :
    digitsOf? least most (Instant.padded width n).toList = some n := by
  have hall : (decimals width n).all isPlainDigit = true :=
    List.all_eq_true.mpr fun _ => isPlainDigit_of_mem_decimals
  rw [toList_padded hwidth h, digitsOf?, length_decimals, hall, digitsNumber_decimals h,
    decide_eq_true hleast, decide_eq_true hmost]
  rfl

/-- A number of a fixed width is written in digits. -/
theorem isPlainDigit_of_mem_padded {width n : Nat} {c : Char} (hwidth : 0 < width)
    (h : n < 10 ^ width) (hc : c ∈ (Instant.padded width n).toList) :
    isPlainDigit c = true := by
  rw [toList_padded hwidth h] at hc
  exact isPlainDigit_of_mem_decimals hc

/-- A sign that is no digit does not cut a number. -/
theorem padded_not_cut {width n : Nat} (hwidth : 0 < width) (h : n < 10 ^ width) {sign : Char}
    (hsign : isPlainDigit sign = false) :
    ∀ c ∈ (Instant.padded width n).toList, (c == sign) = false := by
  intro c hc
  refine beq_eq_false_iff_ne.mpr ?_
  rintro rfl
  rw [isPlainDigit_of_mem_padded hwidth h hc] at hsign
  contradiction

/-- A sign that is no digit cuts a number off from what stands behind it. -/
theorem pieces_padded {width n : Nat} (hwidth : 0 < width) (h : n < 10 ^ width) {sign : Char}
    (hsign : isPlainDigit sign = false) (rest : List Char) :
    Text.pieces (· == sign) ((Instant.padded width n).toList ++ sign :: rest) =
      (Instant.padded width n).toList :: Text.pieces (· == sign) rest :=
  Text.pieces_cut (by exact beq_self_eq_true sign) (padded_not_cut hwidth h hsign) rest

/-- The length of a number of a fixed width. -/
theorem length_padded {width n : Nat} (hwidth : 0 < width) (h : n < 10 ^ width) :
    (Instant.padded width n).toList.length = width := by
  rw [toList_padded hwidth h, length_decimals]

/-- Three digits of a fraction write thousands of its microseconds. -/
theorem fractionMicros_padded {n : Nat} (h : n < 1000) :
    fractionMicros (Instant.padded 3 n).toList = n * 1000 := by
  have hnumber : digitsNumber (decimals 3 n) = n := digitsNumber_decimals h
  have htake : (decimals 3 n ++ List.replicate 6 '0').take 6 = decimals 3 n ++ ['0', '0', '0'] := by
    rw [List.take_append, length_decimals, List.take_of_length_le (by rw [length_decimals]; decide)]
    rfl
  rw [digitsNumber] at hnumber
  rw [toList_padded (by decide) h, fractionMicros, htake, digitsNumber,
    List.foldl_append, hnumber]
  change 10 * (10 * (10 * n)) = n * 1000
  omega

/-! ### Dates and times of day -/

/-- The numbers of a date are its pieces. -/
theorem Date.IsValid.pieces_text {d : Date} (hd : d.IsValid) (hyear : d.year < 10000) :
    Text.pieces (· == '-') d.text.toList =
      [(Instant.padded 4 d.year).toList, (Instant.padded 2 d.month).toList,
        (Instant.padded 2 d.day).toList] := by
  rw [d.toList_text, pieces_padded (by decide) hyear rfl,
    pieces_padded (by decide) hd.two_digits.1 rfl,
    Text.pieces_of_forall_not (padded_not_cut (by decide) hd.two_digits.2 rfl)]

/-- A `T` is not part of a date. -/
theorem Date.IsValid.text_not_cut {d : Date} (hd : d.IsValid) (hyear : d.year < 10000) :
    ∀ c ∈ d.text.toList, (c == 'T') = false := by
  intro c hc
  rw [d.toList_text, List.mem_append, List.mem_cons, List.mem_append, List.mem_cons] at hc
  rcases hc with hc | rfl | hc | rfl | hc
  · exact padded_not_cut (by decide) hyear rfl c hc
  · rfl
  · exact padded_not_cut (by decide) hd.two_digits.1 rfl c hc
  · rfl
  · exact padded_not_cut (by decide) hd.two_digits.2 rfl c hc

namespace Instant

/-- The numbers of a time of day with milliseconds are read as themselves. -/
theorem dayTime_padded {hour minute second milli : Nat} (hhour : hour < 10 ^ 2)
    (hminute : minute < 10 ^ 2) (hsecond : second < 10 ^ 2) (hmilli : milli < 10 ^ 3) :
    dayTime? ((padded 2 hour).toList ++ ':' :: ((padded 2 minute).toList ++ ':' ::
      ((padded 2 second).toList ++ '.' :: (padded 3 milli).toList))) =
      some ⟨hour, minute, second, milli * 1000⟩ := by
  have hlast : ∀ c ∈ (padded 2 second).toList ++ '.' :: (padded 3 milli).toList,
      (c == ':') = false := by
    intro c hc
    rw [List.mem_append, List.mem_cons] at hc
    rcases hc with hc | rfl | hc
    · exact padded_not_cut (by decide) hsecond rfl c hc
    · rfl
    · exact padded_not_cut (by decide) hmilli rfl c hc
  have hdigits : (padded 3 milli).toList.all isPlainDigit = true :=
    List.all_eq_true.mpr fun _ => isPlainDigit_of_mem_padded (by decide) hmilli
  have hlength := length_padded (by decide) hsecond
  have htwo : ∀ {n : Nat}, n < 10 ^ 2 → digitsOf? 2 2 (padded 2 n).toList = some n :=
    fun h => digitsOf_padded (by decide) h (Nat.le_refl 2) (Nat.le_refl 2)
  rw [dayTime?, pieces_padded (by decide) hhour rfl, pieces_padded (by decide) hminute rfl,
    Text.pieces_of_forall_not hlast]
  simp only [List.take_left' hlength, List.drop_left' hlength, htwo hminute, htwo hsecond,
    digitsOf_padded (by decide) hhour (by decide : 1 ≤ 2) (Nat.le_refl 2), hdigits,
    fractionMicros_padded hmilli, if_true, Option.bind_eq_bind, Option.bind_some]

/-- The time of day in a text is a clock of digits that tells the milliseconds, and a `Z`. -/
theorem exists_clock {micros : Nat} (h : micros < 86400000000) :
    ∃ front, clock micros = front ++ ['Z'] ∧
      (∀ c ∈ front, (isPlainDigit c || c == ':' || c == '.') = true) ∧
      dayTime? front =
        some ⟨micros / 1000000 / 3600, micros / 1000000 / 60 % 60, micros / 1000000 % 60,
          micros % 1000000 / 1000 * 1000⟩ := by
  have hhour : micros / 1000000 / 3600 < 10 ^ 2 := by omega
  have hminute : micros / 1000000 / 60 % 60 < 10 ^ 2 := by omega
  have hsecond : micros / 1000000 % 60 < 10 ^ 2 := by omega
  have hmilli : micros % 1000000 / 1000 < 10 ^ 3 := by omega
  refine ⟨_, ?_, ?_, dayTime_padded hhour hminute hsecond hmilli⟩
  · simp only [clock, List.append_assoc, List.cons_append]
  · intro c hc
    simp only [List.mem_append, List.mem_cons] at hc
    have hdigit : isPlainDigit c = true ∨ c = ':' ∨ c = '.' := by
      rcases hc with hc | rfl | hc | rfl | hc | rfl | hc
      · exact Or.inl (isPlainDigit_of_mem_padded (by decide) hhour hc)
      · exact Or.inr (Or.inl rfl)
      · exact Or.inl (isPlainDigit_of_mem_padded (by decide) hminute hc)
      · exact Or.inr (Or.inl rfl)
      · exact Or.inl (isPlainDigit_of_mem_padded (by decide) hsecond hc)
      · exact Or.inr (Or.inr rfl)
      · exact Or.inl (isPlainDigit_of_mem_padded (by decide) hmilli hc)
    simpa only [Bool.or_eq_true, beq_iff_eq, or_assoc] using hdigit

/-- The time of day in a text is read with its milliseconds, as universal time. -/
theorem dayTimeAndZone_clock {micros : Nat} (h : micros < 86400000000) :
    dayTimeAndZone? (clock micros) =
      some (⟨micros / 1000000 / 3600, micros / 1000000 / 60 % 60, micros / 1000000 % 60,
        micros % 1000000 / 1000 * 1000⟩, some 0) := by
  obtain ⟨front, hclock, hsigns, htime⟩ := exists_clock h
  have htake : (front ++ ['Z']).takeWhile (fun c => isPlainDigit c || c == ':' || c == '.') =
      front := by
    rw [List.takeWhile_append_of_pos hsigns]
    exact List.append_nil front
  rw [hclock, dayTimeAndZone?]
  simp only [htake, List.drop_left' rfl, htime]
  rfl

/-- A `T` is not part of a time of day. -/
theorem clock_not_cut {micros : Nat} (h : micros < 86400000000) :
    ∀ c ∈ clock micros, (c == 'T') = false := by
  obtain ⟨front, hclock, hsigns, -⟩ := exists_clock h
  rw [hclock]
  intro c hc
  refine beq_eq_false_iff_ne.mpr ?_
  rintro rfl
  rcases List.mem_append.mp hc with hc | hc
  · exact absurd (hsigns _ hc) (by decide)
  · exact absurd hc (by decide)

/-! ### What a text shows -/

/-- The reading that the text of an instant shows: universal time with the microseconds below a
millisecond cut off. -/
def shown (i : Instant) : LocalTime where
  date := i.date
  hour := i.timeOfDay / 1000000 / 3600
  minute := i.timeOfDay / 1000000 / 60 % 60
  second := i.timeOfDay / 1000000 % 60
  micro := i.timeOfDay % 1000000 / 1000 * 1000
  offset := 0

/-- What a text shows is a reading of a calendar and a clock. -/
theorem shown_isValid (h : i.inRange = true) : i.shown.IsValid := by
  have htime := i.timeOfDay_lt
  have hyear := date_year_lt h
  constructor <;> simp only [shown, secondsPerDay]
  · exact i.date_isValid
  all_goals omega

/-- What a text shows is the instant with all below a millisecond cut off. -/
theorem shown_instant (h : i.inRange = true) : i.shown.instant = ⟨i.micros / 1000 * 1000⟩ := by
  have hmillis := millis_eq h
  rw [LocalTime.instant, Instant.mk.injEq]
  simp only [shown, microsPerDay]
  omega

/-- The instant that a text of ISO 8601 writes: a date, a `T`, and a time of day that tells its
distance from universal time. -/
def ofIso? (text : String) : Option Instant :=
  match Text.pieces (· == 'T') text.toList with
  | [date, clock] =>
    match Text.pieces (· == '-') date, dayTimeAndZone? clock with
    | [y, m, d], some (time, some offset) => do
      let year ← digitsOf? 4 4 y
      let month ← digitsOf? 2 2 m
      let day ← digitsOf? 2 2 d
      let reading ← (LocalTime.check year month day time.hour time.minute time.second time.micro
        offset).toOption
      return reading.instant
    | _, _ => none
  | _ => none

/-- A reading in a place ahead of universal time is an earlier instant than one there. -/
example : ofIso? "2024-03-01T00:30:00.5+01:00" = some ⟨1709249400500000⟩ := by decide +kernel

/-- The text of an instant is read as what it shows. -/
theorem ofIso_text (h : i.inRange = true) : ofIso? i.text = some ⟨i.micros / 1000 * 1000⟩ := by
  have hyear := date_year_lt h
  have hdigits := i.date_isValid.two_digits
  have hcut : Text.pieces (· == 'T') i.text.toList = [i.date.text.toList, clock i.timeOfDay] := by
    rw [i.toList_text, Text.pieces_cut rfl (i.date_isValid.text_not_cut hyear),
      Text.pieces_of_forall_not (clock_not_cut i.timeOfDay_lt)]
  have hnumbers : digitsOf? 4 4 (padded 4 i.date.year).toList = some i.date.year ∧
      digitsOf? 2 2 (padded 2 i.date.month).toList = some i.date.month ∧
      digitsOf? 2 2 (padded 2 i.date.day).toList = some i.date.day :=
    ⟨digitsOf_padded (by decide) hyear (Nat.le_refl 4) (Nat.le_refl 4),
      digitsOf_padded (by decide) hdigits.1 (Nat.le_refl 2) (Nat.le_refl 2),
      digitsOf_padded (by decide) hdigits.2 (Nat.le_refl 2) (Nat.le_refl 2)⟩
  have hcheck := (shown_isValid h).check_eq
  simp only [shown] at hcheck
  rw [ofIso?, hcut]
  simp only [i.date_isValid.pieces_text hyear, dayTimeAndZone_clock i.timeOfDay_lt, hnumbers,
    Option.bind_eq_bind, Option.bind_some, hcheck]
  exact congrArg some (shown_instant h)

end Instant

/-- The texts of readings in any places come in the order of their instants, are the same exactly if
the instants fall into one millisecond, and are read as the instants with the rest cut off. -/
theorem LocalTime.text_order {t u : LocalTime} (ht : t.instant.inRange = true)
    (hu : u.instant.inRange = true) :
    ∃ a b, t.text? = .ok a ∧ u.text? = .ok b ∧
      (t.instant.micros ≤ u.instant.micros → a ≤ b) ∧
      (a = b ↔ t.instant.micros / 1000 = u.instant.micros / 1000) ∧
      Instant.ofIso? a = some ⟨t.instant.micros / 1000 * 1000⟩ := by
  refine ⟨t.instant.text, u.instant.text, if_pos ht, if_pos hu, ?_, ?_, Instant.ofIso_text ht⟩
  · intro hle
    rw [← not_lt, Instant.text_lt_iff hu ht, not_lt]
    exact Int.ediv_le_ediv (by decide) hle
  · exact Instant.text_eq_iff ht hu

/-- Half past midnight on the first of March, an hour ahead of universal time. -/
def marchAhead : LocalTime := ⟨⟨2024, 3, 1⟩, 0, 30, 0, 999, 3600⟩

/-- Half past six in the evening of a leap day, five hours behind universal time. -/
def leapDayBehind : LocalTime := ⟨⟨2024, 2, 29⟩, 18, 30, 0, 1000, -18000⟩

/-- The first of March in one place may be the leap day in universal time. -/
theorem LocalTime.text_order_leap_day :
    marchAhead.instant.inRange = true ∧ leapDayBehind.instant.inRange = true ∧
      ∃ a b, marchAhead.text? = .ok a ∧ leapDayBehind.text? = .ok b ∧
        (marchAhead.instant.micros ≤ leapDayBehind.instant.micros → a ≤ b) ∧
        (a = b ↔ marchAhead.instant.micros / 1000 = leapDayBehind.instant.micros / 1000) ∧
        Instant.ofIso? a = some ⟨marchAhead.instant.micros / 1000 * 1000⟩ :=
  ⟨by decide, by decide, LocalTime.text_order (by decide) (by decide)⟩

end LeafSwitch.Time
