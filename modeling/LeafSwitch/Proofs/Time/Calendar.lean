import LeafSwitch.Time.Reading
import Mathlib.Algebra.Order.BigOperators.Group.List
import Mathlib.Algebra.Order.Ring.Nat
import Mathlib.Data.List.TakeDrop

/-!
# Days and dates

A day is named by a date, and a date counts days. The date of a day is one of the calendar, with a
month and a day that its year has, and its number is the day. A later date has a higher number, so
dates come in the order of their days.
-/

namespace LeafSwitch.Time

/-- The length of a month of a year. -/
def monthLength (year month : Nat) : Nat :=
  ((monthLengths year)[month - 1]?).getD 0

/-- A date of the calendar. -/
structure Date.IsValid (d : Date) : Prop where
  /-- Years are counted from 1. -/
  year_pos : 1 ≤ d.year
  /-- Months are counted from 1. -/
  month_pos : 1 ≤ d.month
  /-- A year has twelve of them. -/
  month_le : d.month ≤ 12
  /-- Days are counted from 1. -/
  day_pos : 1 ≤ d.day
  /-- The month has the day. -/
  day_le : d.day ≤ monthLength d.year d.month

/-! ### Years -/

/-- A year has twelve months. -/
theorem length_monthLengths (year : Nat) : (monthLengths year).length = 12 := rfl

/-- A year is as long as its months together. -/
theorem sum_monthLengths (year : Nat) :
    (monthLengths year).sum = if isLeap year = true then 366 else 365 := by
  rw [monthLengths]
  split <;> rfl

/-- A leap year is divisible by 4, and by 400 if it is divisible by 100. -/
theorem isLeap_iff (year : Nat) :
    isLeap year = true ↔ year % 4 = 0 ∧ (year % 100 ≠ 0 ∨ year % 400 = 0) := by
  simp [isLeap]

/-- The year behind a year begins when all its months are over. -/
theorem daysBeforeYear_succ {year : Nat} (h : 1 ≤ year) :
    daysBeforeYear (year + 1) = daysBeforeYear year + (monthLengths year).sum := by
  obtain ⟨past, rfl⟩ : ∃ past, year = past + 1 := ⟨year - 1, by omega⟩
  have hleap := isLeap_iff (past + 1)
  have hfours : (past + 1) / 4 = _ := Nat.succ_div
  have hcenturies : (past + 1) / 100 = _ := Nat.succ_div
  have hspans : (past + 1) / 400 = _ := Nat.succ_div
  have hless : past / 100 ≤ past / 4 := Nat.div_le_div_left (by decide) (by decide)
  simp only [sum_monthLengths, daysBeforeYear, Nat.add_sub_cancel, hfours, hcenturies, hspans,
    Nat.dvd_iff_mod_eq_zero]
  by_cases hyear : isLeap (past + 1) = true
  · obtain ⟨hfour, hcentury | hspan⟩ := hleap.mp hyear
    · rw [if_pos hyear, if_pos hfour, if_neg hcentury, if_neg fun hspan => hcentury (by omega)]
      omega
    · rw [if_pos hyear, if_pos hfour, if_pos hspan, if_pos (by omega)]
      omega
  · have hnot := mt hleap.mpr hyear
    by_cases hfour : (past + 1) % 4 = 0
    · obtain ⟨hcentury, hspan⟩ := not_or.mp fun h => hnot ⟨hfour, h⟩
      rw [if_neg hyear, if_pos hfour, if_pos (not_not.mp hcentury), if_neg hspan]
      omega
    · rw [if_neg hyear, if_neg hfour, if_neg fun hcentury => hfour (by omega),
        if_neg fun hspan => hfour (by omega)]
      omega

/-- Years begin one after another. -/
theorem daysBeforeYear_mono {year later : Nat} (hpos : 1 ≤ year) (h : year ≤ later) :
    daysBeforeYear year ≤ daysBeforeYear later := by
  induction later, h using Nat.le_induction with
  | base => exact Nat.le_refl _
  | succ later hle ih =>
    rw [daysBeforeYear_succ (hpos.trans hle)]
    exact ih.trans (Nat.le_add_right _ _)

/-- The days before a year, counted by 400-year spans, centuries, four-year spans and years. -/
theorem daysBeforeYear_spans (spans : Nat) {centuries fours years : Nat}
    (hcenturies : centuries ≤ 3)
    (hfours : fours ≤ 24) (hyears : years ≤ 3) :
    daysBeforeYear (400 * spans + 100 * centuries + 4 * fours + years + 1) =
      146097 * spans + 36524 * centuries + 1461 * fours + 365 * years := by
  simp only [daysBeforeYear]
  omega

/-- A year is a leap year as the last one of a four-year span, which must not be the last one of a
century unless this is the last one of a 400-year span. -/
theorem isLeap_spans (spans : Nat) {centuries fours years : Nat} (hcenturies : centuries ≤ 3)
    (hfours : fours ≤ 24) (hyears : years ≤ 3) :
    isLeap (400 * spans + 100 * centuries + 4 * fours + years + 1) = true ↔
      years = 3 ∧ (fours ≠ 24 ∨ centuries = 3) := by
  rw [isLeap_iff]
  omega

/-! ### Months -/

/-- A day of the year falls into a month behind others that are over. -/
theorem monthDay_split {lengths : List Nat} {day : Nat} (h : day < lengths.sum) (month : Nat) :
    ∃ before length after, lengths = before ++ length :: after ∧ before.sum ≤ day ∧
      day < before.sum + length ∧
      monthDay month lengths day = (month + before.length, day - before.sum + 1) := by
  induction lengths generalizing month day with
  | nil => exact absurd h (Nat.not_lt_zero day)
  | cons length rest ih =>
    rw [List.sum_cons] at h
    rw [monthDay]
    by_cases hday : day < length
    · refine ⟨[], length, rest, rfl, Nat.zero_le day, ?_, if_pos hday⟩
      rwa [List.sum_nil, Nat.zero_add]
    · have hleft : day - length < rest.sum := by omega
      obtain ⟨before, next, after, hrest, hover, hin, heq⟩ := ih hleft (month + 1)
      refine ⟨length :: before, next, after, congrArg (length :: ·) hrest, ?_, ?_, ?_⟩
      · rw [List.sum_cons]
        omega
      · rw [List.sum_cons]
        omega
      · rw [if_neg hday, heq, List.length_cons, List.sum_cons]
        refine Prod.ext ?_ ?_
        · dsimp only
          omega
        · dsimp only
          omega

/-- The number of a date, with the months before it added up. -/
theorem Date.dayNumber_eq (d : Date) :
    d.dayNumber = daysBeforeYear d.year + ((monthLengths d.year).take (d.month - 1)).sum +
      (d.day - 1) := by
  rw [dayNumber, List.sum_eq_foldl]

/-- A month ends when the months up to it are over. -/
theorem sum_take_monthLengths (year : Nat) {month : Nat} (hpos : 1 ≤ month) (hle : month ≤ 12) :
    ((monthLengths year).take month).sum =
      ((monthLengths year).take (month - 1)).sum + monthLength year month := by
  have hlt : month - 1 < (monthLengths year).length := by
    rw [length_monthLengths]
    omega
  have hsplit := List.take_concat_get' (monthLengths year) (month - 1) hlt
  have hmonth : month - 1 + 1 = month := by omega
  rw [hmonth] at hsplit
  rw [← hsplit, List.sum_append, List.sum_singleton, monthLength, List.getElem?_eq_getElem hlt,
    Option.getD_some]

/-- Months end one after another. -/
theorem sum_take_mono (lengths : List Nat) {a b : Nat} (h : a ≤ b) :
    (lengths.take a).sum ≤ (lengths.take b).sum :=
  (List.take_sublist_take_left h).sum_le_sum fun _ _ => Nat.zero_le _

/-! ### Dates -/

/-- The date of a day is one of the calendar, and its number is the day. -/
theorem Date.ofDayNumber_spec (n : Nat) :
    (Date.ofDayNumber n).IsValid ∧ (Date.ofDayNumber n).dayNumber = n := by
  let century := min 3 (n % 146097 / 36524)
  let inCentury := n % 146097 - 36524 * century
  let inFour := inCentury % 1461
  let single := min 3 (inFour / 365)
  let year := 400 * (n / 146097) + 100 * century + 4 * (inCentury / 1461) + single + 1
  have hcentury : century ≤ 3 := Nat.min_le_left ..
  have hsingle : single ≤ 3 := Nat.min_le_left ..
  have hin : inCentury ≤ 36524 ∧ (inCentury = 36524 → century = 3) := by
    simp only [inCentury, century]
    omega
  have hfours : inCentury / 1461 ≤ 24 := by omega
  have hbefore := daysBeforeYear_spans (n / 146097) hcentury hfours hsingle
  have hleap := isLeap_spans (n / 146097) hcentury hfours hsingle
  -- The fourth year of a span has one day more than the others, if it is a leap year.
  have hrest : inFour - 365 * single ≤ 365 ∧ (inFour - 365 * single = 365 →
      single = 3 ∧ inFour = 1460) := by
    simp only [single, inFour]
    omega
  have hday : inFour - 365 * single < (monthLengths year).sum := by
    rw [sum_monthLengths]
    split
    · omega
    · rename_i hcommon
      have hnot := mt hleap.mpr hcommon
      simp only [inFour] at hrest ⊢
      omega
  obtain ⟨before, length, after, hlengths, hover, hmonth, heq⟩ := monthDay_split hday 1
  have hdate : Date.ofDayNumber n =
      ⟨year, 1 + before.length, inFour - 365 * single - before.sum + 1⟩ := by
    rw [Date.ofDayNumber]
    change Date.mk year (monthDay 1 (monthLengths year) (inFour - 365 * single)).1
      (monthDay 1 (monthLengths year) (inFour - 365 * single)).2 = _
    rw [heq]
  have hcount : before.length < 12 := by
    have htotal := congrArg List.length hlengths
    rw [length_monthLengths, List.length_append, List.length_cons] at htotal
    omega
  have hplace : 1 + before.length - 1 = before.length := by omega
  rw [hdate]
  constructor
  · refine ⟨Nat.le_add_left 1 _, Nat.le_add_right 1 _, ?_, Nat.le_add_left 1 _, ?_⟩
    · dsimp only
      omega
    · dsimp only
      rw [monthLength, hplace, hlengths, List.getElem?_append_right (Nat.le_refl _), Nat.sub_self,
        List.getElem?_cons_zero, Option.getD_some]
      omega
  · rw [Date.dayNumber_eq]
    dsimp only
    rw [hplace, hlengths, List.take_left' rfl, hbefore]
    simp only [inFour, single, inCentury, century] at *
    omega

/-- A date comes before another one: by its year, or by its month in the same year, or by its day in
the same month. -/
def Date.Precedes (d e : Date) : Prop :=
  d.year < e.year ∨ d.year = e.year ∧ (d.month < e.month ∨ d.month = e.month ∧ d.day < e.day)

variable {d e : Date}

/-- A date falls in front of the end of its month. -/
theorem Date.IsValid.dayNumber_lt_month (hd : d.IsValid) :
    d.dayNumber < daysBeforeYear d.year + ((monthLengths d.year).take d.month).sum := by
  have hmonth := sum_take_monthLengths d.year hd.month_pos hd.month_le
  have hpos := hd.day_pos
  have hle := hd.day_le
  rw [d.dayNumber_eq]
  omega

/-- A date falls in front of the next year. -/
theorem Date.IsValid.dayNumber_lt_year (hd : d.IsValid) :
    d.dayNumber < daysBeforeYear (d.year + 1) := by
  have hmonth := hd.dayNumber_lt_month
  have hsum := sum_take_mono (monthLengths d.year) hd.month_le
  rw [List.take_of_length_le (length_monthLengths d.year).le] at hsum
  rw [daysBeforeYear_succ hd.year_pos]
  omega

/-- A date falls behind the beginning of its year. -/
theorem Date.daysBeforeYear_le (d : Date) : daysBeforeYear d.year ≤ d.dayNumber := by
  rw [d.dayNumber_eq]
  omega

/-- A later date has a higher number. -/
theorem Date.IsValid.dayNumber_lt (hd : d.IsValid) (h : d.Precedes e) :
    d.dayNumber < e.dayNumber := by
  rcases h with hyear | ⟨hyear, hmonth | ⟨hmonth, hday⟩⟩
  · calc
      d.dayNumber < daysBeforeYear (d.year + 1) := hd.dayNumber_lt_year
      _ ≤ daysBeforeYear e.year := daysBeforeYear_mono (Nat.le_add_left 1 _) hyear
      _ ≤ e.dayNumber := e.daysBeforeYear_le
  · have hlt := hd.dayNumber_lt_month
    have hsum := sum_take_mono (monthLengths e.year) (Nat.le_sub_one_of_lt hmonth)
    rw [hyear] at hlt
    rw [e.dayNumber_eq]
    omega
  · have hpos := hd.day_pos
    rw [d.dayNumber_eq, e.dayNumber_eq, hyear, hmonth]
    omega

/-- Dates are the same by their years, months and days. -/
theorem Date.eq_iff : d = e ↔ d.year = e.year ∧ d.month = e.month ∧ d.day = e.day := by
  cases d
  cases e
  rw [Date.mk.injEq]

/-- Of two dates one comes before the other one, unless they are the same. -/
theorem Date.precedes_or_eq_or (d e : Date) : d.Precedes e ∨ d = e ∨ e.Precedes d := by
  rw [Date.eq_iff, Precedes, Precedes]
  omega

/-- Dates come in the order of their numbers. -/
theorem Date.IsValid.precedes_iff (hd : d.IsValid) (he : e.IsValid) :
    d.Precedes e ↔ d.dayNumber < e.dayNumber := by
  refine ⟨hd.dayNumber_lt, fun hlt => ?_⟩
  rcases d.precedes_or_eq_or e with hbefore | rfl | hbehind
  · exact hbefore
  · exact absurd hlt (Nat.lt_irrefl _)
  · exact absurd hlt (Nat.not_lt.mpr (he.dayNumber_lt hbehind).le)

/-- The year of a day before the end of the calendar has no more than four digits. -/
theorem Date.year_ofDayNumber_lt {n : Nat} (h : n < endDay) :
    (Date.ofDayNumber n).year < 10000 := by
  have hspec := Date.ofDayNumber_spec n
  by_contra hyear
  have hend : daysBeforeYear 10000 = endDay := rfl
  have hlate := daysBeforeYear_mono (by decide) (Nat.not_lt.mp hyear)
  have hbegin := (Date.ofDayNumber n).daysBeforeYear_le
  omega

/-- No month has more than 31 days. -/
theorem monthLength_le (year month : Nat) : monthLength year month ≤ 31 := by
  have hall : ∀ length ∈ monthLengths year, length ≤ 31 := by
    intro length hlength
    rw [monthLengths] at hlength
    split at hlength <;> revert length <;> decide
  rw [monthLength]
  cases hmonth : (monthLengths year)[month - 1]? with
  | none => exact Nat.zero_le 31
  | some length => exact hall length (List.mem_of_getElem? hmonth)

/-! ### Checked readings -/

/-- The numbers of a date of the calendar make up this date. -/
theorem Date.IsValid.check_eq (hd : d.IsValid) (hyear : d.year ≤ 9999) :
    Date.check d.year d.month d.day = .ok d := by
  obtain ⟨hyear_pos, hmonth_pos, hmonth_le, hday_pos, hday_le⟩ := hd
  rw [monthLength] at hday_le
  rw [Date.check, if_neg, if_neg]
  · dsimp only
    rw [Int.toNat_natCast, Int.toNat_natCast, Int.toNat_natCast, if_neg]
    rw [Bool.or_eq_true, decide_eq_true_eq, decide_eq_true_eq]
    omega
  · rw [Bool.or_eq_true, decide_eq_true_eq, decide_eq_true_eq]
    omega
  · rw [Bool.or_eq_true, decide_eq_true_eq, decide_eq_true_eq]
    omega

/-- A reading of a calendar and a clock: the date is in the years 1 to 9999, the numbers are those
of a time of day, and the place is less than a day away. -/
structure LocalTime.IsValid (t : LocalTime) : Prop where
  /-- The date is one of the calendar. -/
  date : t.date.IsValid
  /-- The year has four digits at most. -/
  year_le : t.date.year ≤ 9999
  /-- There is such an hour. -/
  hour_le : t.hour ≤ 23
  /-- There is such a minute. -/
  minute_le : t.minute ≤ 59
  /-- There is such a second. -/
  second_le : t.second ≤ 59
  /-- There is such a microsecond. -/
  micro_le : t.micro ≤ 999999
  /-- Local time is less than a day behind. -/
  neg_lt_offset : -secondsPerDay < t.offset
  /-- Local time is less than a day ahead. -/
  offset_lt : t.offset < secondsPerDay

/-- A small number has few bits. -/
theorem checkBits_eq_ok {bits : Nat} (hbits : 32 ≤ bits) {low high : TimeError} {n : Int}
    (hn : n.natAbs ≤ 999999) : checkBits bits low high n = .ok () := by
  have hlimit : Nat.pow 2 31 ≤ Nat.pow 2 (bits - 1) :=
    Nat.pow_le_pow_right (by decide) (by omega)
  have hsize : 999999 < Nat.pow 2 31 := by decide
  rw [checkBits, if_neg (by omega), if_neg (by omega)]

/-- A check of numbers passes where it passes each of them. -/
theorem forM_eq_ok {check : Int → Except TimeError Unit} {numbers : List Int}
    (h : ∀ n ∈ numbers, check n = .ok ()) : numbers.forM check = .ok () := by
  induction numbers with
  | nil => rfl
  | cons n rest ih =>
    rw [List.forM, h n List.mem_cons_self]
    exact ih fun m hm => h m (List.mem_cons_of_mem n hm)

/-- The numbers of a reading make up this reading. -/
theorem LocalTime.IsValid.check_eq {t : LocalTime} (ht : t.IsValid) :
    LocalTime.check t.date.year t.date.month t.date.day t.hour t.minute t.second t.micro t.offset =
      .ok t := by
  obtain ⟨hdate, hyear, hhour, hminute, hsecond, hmicro, hbehind, hahead⟩ := ht
  have hmonth := hdate.month_le
  have hday := hdate.day_le.trans (monthLength_le _ _)
  have hspan : checkSpan t.offset = .ok () := by
    have hdays : -1 ≤ t.offset / secondsPerDay ∧ t.offset / secondsPerDay ≤ 0 := by
      simp only [secondsPerDay] at *
      omega
    rw [checkSpan]
    generalize t.offset / secondsPerDay = days at hdays
    have hlong : ¬ (days < -longestSpan || longestSpan < days) = true := by
      rw [Bool.or_eq_true, decide_eq_true_eq, decide_eq_true_eq, longestSpan]
      omega
    have hsmall : days.natAbs ≤ 999999 := by omega
    simp only [checkBits_eq_ok (Nat.le_refl 32) hsmall, if_neg hlong]
    rfl
  have hbits : ([t.date.year, t.date.month, t.date.day, t.hour, t.minute, t.second,
      t.micro] : List Int).forM (fun n => do
        checkBits 64 .huge .huge n
        checkBits 32 .below .above n) = Except.ok () := by
    refine forM_eq_ok fun n hn => ?_
    have hsmall : n.natAbs ≤ 999999 := by
      simp only [List.mem_cons, List.not_mem_nil, or_false] at hn
      omega
    rw [checkBits_eq_ok (by decide) hsmall]
    exact checkBits_eq_ok (by decide) hsmall
  have hoffset : ¬ (t.offset ≤ -secondsPerDay || secondsPerDay ≤ t.offset) = true := by
    simp only [Bool.or_eq_true, decide_eq_true_eq]
    omega
  have hclock : ∀ (n : Nat) (limit : Int), (n : Int) ≤ limit →
      ¬ ((n : Int) < 0 || limit < (n : Int)) = true := by
    intro n limit hle
    rw [Bool.or_eq_true, decide_eq_true_eq, decide_eq_true_eq]
    omega
  simp only [LocalTime.check, hspan, hbits, hdate.check_eq hyear]
  simp only [bind, Except.bind, pure, Except.pure, if_neg hoffset,
    if_neg (hclock t.hour 23 (by omega)), if_neg (hclock t.minute 59 (by omega)),
    if_neg (hclock t.second 59 (by omega)), if_neg (hclock t.micro 999999 (by omega)),
    Int.toNat_natCast]

end LeafSwitch.Time
