import Mathlib
import SeriesSql.Time.Calendar

/-!
# Days and dates

Every day is the day of exactly the date that is computed for it, and that date exists. The proof
works on years that start in March, where only the length of the year depends on leap days: a day is
given by its year and the number of days since 1 March.
-/

namespace SeriesSql.Date

/-- The days from 1 March of the year 0 to 1 March of a year. -/
def marchStart (year : Int) : Int :=
  365 * year + year / 4 - year / 100 + year / 400

/-- The date a number of days after 1 March of a year, if it is before the next 1 March. -/
def ofMarch (year dayOfYear : Int) : Date :=
  let monthFromMarch := (5 * dayOfYear + 2) / 153
  let day := dayOfYear - (153 * monthFromMarch + 2) / 5 + 1
  let month := if monthFromMarch < 10 then monthFromMarch + 3 else monthFromMarch - 9
  ⟨if month ≤ 2 then year + 1 else year, month.toNat, day.toNat⟩

/-! ### Eras

An era of 400 years has four centuries, each of which has 25 groups of four years. The last day of a
year of 366 days is in the last year of its group, and a century that ends with one is the last. -/

section Era

theorem exists_place_in_era {day : Int} (hpos : 0 ≤ day) (hlt : day < 146097) :
    ∃ century group year dayOfYear : Int,
      0 ≤ century ∧ century ≤ 3 ∧ 0 ≤ group ∧ group ≤ 24 ∧ 0 ≤ year ∧ year ≤ 3 ∧
      0 ≤ dayOfYear ∧ dayOfYear ≤ 365 ∧
      (dayOfYear = 365 → year = 3 ∧ (group ≤ 23 ∨ century = 3)) ∧
      day = 36524 * century + 1461 * group + 365 * year + dayOfYear := by
  obtain ⟨century, rest, hc0, hc3, hr0, hr, hrest, hday⟩ : ∃ century rest : Int,
      0 ≤ century ∧ century ≤ 3 ∧ 0 ≤ rest ∧ rest ≤ 36524 ∧ (rest = 36524 → century = 3) ∧
        day = 36524 * century + rest := by
    by_cases hlast : day = 146096
    · exact ⟨3, 36524, by omega⟩
    · exact ⟨day / 36524, day % 36524, by omega, by omega, by omega, by omega, by omega, by omega⟩
  obtain ⟨group, left, hg0, hg24, hl0, hl, hleft⟩ : ∃ group left : Int,
      0 ≤ group ∧ group ≤ 24 ∧ 0 ≤ left ∧ left ≤ 1460 ∧ rest = 1461 * group + left :=
    ⟨rest / 1461, rest % 1461, by omega, by omega, by omega, by omega, by omega⟩
  by_cases hlast : left = 1460
  · exact ⟨century, group, 3, 365, hc0, hc3, hg0, hg24, by omega, by omega, by omega, by omega,
      by omega, by omega⟩
  · exact ⟨century, group, left / 365, left % 365, hc0, hc3, hg0, hg24, by omega, by omega,
      by omega, by omega, by omega, by omega⟩

theorem ediv_year (year : Int) {day : Int} (hpos : 0 ≤ day) (hlt : day ≤ 364) :
    (365 * year + day) / 365 = year := by
  omega

variable {century group year : Int} (hc0 : 0 ≤ century) (hc3 : century ≤ 3) (hg0 : 0 ≤ group)
  (hg24 : group ≤ 24) (hy0 : 0 ≤ year) (hy3 : year ≤ 3)

include hc0 hc3 hg0 hg24 hy0 hy3

/-- The year of the era that is computed from a day of the era. -/
theorem yearOfEra_eq {day dayOfYear : Int} (hd0 : 0 ≤ dayOfYear) (hd365 : dayOfYear ≤ 365)
    (hleap : dayOfYear = 365 → year = 3 ∧ (group ≤ 23 ∨ century = 3))
    (hday : day = 36524 * century + 1461 * group + 365 * year + dayOfYear) :
    (day - day / 1460 + day / 36524 - day / 146096) / 365 = 100 * century + 4 * group + year := by
  have hcenturies : day / 36524 - day / 146096 = century := by
    by_cases hlast : day = 146096
    · subst hlast
      omega
    · have hlt : 1461 * group + 365 * year + dayOfYear < 36524 := by
        by_cases h : dayOfYear = 365
        · have := hleap h
          omega
        · omega
      have hcentury : day / 36524 = century := by omega
      have hzero : day / 146096 = 0 := by omega
      omega
  -- The leap days before the day are subtracted, one more or less than there are of them.
  obtain ⟨extra, hextra⟩ : ∃ e, e = (24 * century + group + 365 * year + dayOfYear) / 1460 :=
    ⟨_, rfl⟩
  have hlow : extra ≤ dayOfYear := by
    by_cases h : dayOfYear = 0 <;> omega
  have hhigh : dayOfYear ≤ extra + 364 := by
    by_cases h : dayOfYear = 365
    · have := (hleap h).1
      omega
    · omega
  have hgroups : day / 1460 = 25 * century + group + extra := by omega
  have hsum : day - day / 1460 + day / 36524 - day / 146096 =
      365 * (100 * century + 4 * group + year) + (dayOfYear - extra) := by
    linarith
  rw [hsum]
  exact ediv_year _ (by linarith) (by linarith)

theorem marchStart_eq (era : Int) :
    marchStart (100 * century + 4 * group + year + era * 400) =
      146097 * era + (36524 * century + 1461 * group + 365 * year) := by
  have hfour : (100 * century + 4 * group + year + era * 400) / 4 =
      25 * century + group + 100 * era := by
    omega
  have hhundred : (100 * century + 4 * group + year + era * 400) / 100 = century + 4 * era := by
    omega
  have hera : (100 * century + 4 * group + year + era * 400) / 400 = era := by
    omega
  rw [marchStart, hfour, hhundred, hera]
  ring

omit hc0 hc3 in
theorem isLeapYear_succ (era : Int) (hlast : year = 3) (hleap : group ≤ 23 ∨ century = 3) :
    isLeapYear (100 * century + 4 * group + year + era * 400 + 1) := by
  subst hlast
  have hfour : (100 * century + 4 * group + 3 + era * 400 + 1) % 4 = 0 := by omega
  by_cases h : group ≤ 23
  · have hhundred : (100 * century + 4 * group + 3 + era * 400 + 1) % 100 ≠ 0 := by omega
    simp [isLeapYear, hfour, hhundred]
  · have hera : (100 * century + 4 * group + 3 + era * 400 + 1) % 400 = 0 := by omega
    simp [isLeapYear, hfour, hera]

end Era

/-- A day is so many days after the 1 March before it, and its date is computed from them. -/
theorem exists_ofMarch (days : Int) :
    ∃ year dayOfYear : Int, 0 ≤ dayOfYear ∧ dayOfYear ≤ 365 ∧
      (dayOfYear = 365 → isLeapYear (year + 1)) ∧
      days + 719468 = marchStart year + dayOfYear ∧ ofDays days = ofMarch year dayOfYear := by
  obtain ⟨era, hera⟩ : ∃ e, e = (days + 719468) / 146097 := ⟨_, rfl⟩
  obtain ⟨day, hday⟩ : ∃ d, d = (days + 719468) % 146097 := ⟨_, rfl⟩
  have hsplit : days + 719468 = 146097 * era + day := by omega
  have hday0 : 0 ≤ day := by omega
  have hdaylt : day < 146097 := by omega
  obtain ⟨century, group, year, dayOfYear, hc0, hc3, hg0, hg24, hy0, hy3, hd0, hd365, hleap, heq⟩ :=
    exists_place_in_era hday0 hdaylt
  have hyearOfEra := yearOfEra_eq hc0 hc3 hg0 hg24 hy0 hy3 hd0 hd365 hleap heq
  have hstart := marchStart_eq hc0 hc3 hg0 hg24 hy0 hy3 era
  refine ⟨100 * century + 4 * group + year + era * 400, dayOfYear, hd0, hd365, fun h => ?_, ?_, ?_⟩
  · exact isLeapYear_succ hg0 hg24 hy0 hy3 era (hleap h).1 (hleap h).2
  · rw [hstart]
    linarith
  · have hrest : day - (365 * (100 * century + 4 * group + year) +
        (100 * century + 4 * group + year) / 4 - (100 * century + 4 * group + year) / 100) =
        dayOfYear := by
      have hfirst := marchStart_eq hc0 hc3 hg0 hg24 hy0 hy3 0
      have hera : (100 * century + 4 * group + year) / 400 = 0 := by
        clear hday hera heq hyearOfEra
        omega
      rw [zero_mul, add_zero, marchStart, hera] at hfirst
      linarith
    simp only [ofDays, ← hera, ← hday, hyearOfEra, hrest, ofMarch]

theorem toDays_ofMarch {year dayOfYear : Int} (hpos : 0 ≤ dayOfYear) (hle : dayOfYear ≤ 365) :
    toDays (ofMarch year dayOfYear) = marchStart year + dayOfYear - 719468 := by
  obtain ⟨month, hmonth⟩ : ∃ m, m = (5 * dayOfYear + 2) / 153 := ⟨_, rfl⟩
  have hmonth0 : 0 ≤ month := by omega
  have hstart : (153 * month + 2) / 5 ≤ dayOfYear := by omega
  have hera : 365 * year + year / 4 - year / 100 + year / 400 =
      year / 400 * 146097 + (year % 400 * 365 + year % 400 / 4 - year % 400 / 100) := by
    omega
  simp only [toDays, ofMarch, marchStart, ← hmonth, hera]
  by_cases h : month < 10
  · have hafter : ¬ month + 3 ≤ 2 := by omega
    have hafter' : ¬ (month + 3).toNat ≤ 2 := by omega
    have hlater : 2 < (month + 3).toNat := by omega
    have hcast : ((month + 3).toNat : Int) - 3 = month := by omega
    simp only [if_pos h, if_neg hafter, if_neg hafter', if_pos hlater, hcast]
    omega
  · have hbefore : month - 9 ≤ 2 := by omega
    have hbefore' : (month - 9).toNat ≤ 2 := by omega
    have hlater : ¬ 2 < (month - 9).toNat := by omega
    have hcast : ((month - 9).toNat : Int) + 9 = month := by omega
    simp only [if_neg h, if_pos hbefore, if_pos hbefore', if_neg hlater, hcast, Int.add_sub_cancel]
    omega

/-- Every day of the calendar is the day of its date. -/
theorem toDays_ofDays (days : Int) : toDays (ofDays days) = days := by
  obtain ⟨year, dayOfYear, hpos, hle, -, hdays, heq⟩ := exists_ofMarch days
  rw [heq, toDays_ofMarch hpos hle]
  omega

theorem isValid_ofMarch {year dayOfYear : Int} (hpos : 0 ≤ dayOfYear) (hle : dayOfYear ≤ 365)
    (hleap : dayOfYear = 365 → isLeapYear (year + 1))
    (hmin : minYear ≤ (ofMarch year dayOfYear).year)
    (hmax : (ofMarch year dayOfYear).year ≤ maxYear) : (ofMarch year dayOfYear).isValid := by
  obtain ⟨month, hmonth⟩ : ∃ m, m = (5 * dayOfYear + 2) / 153 := ⟨_, rfl⟩
  have hmonth0 : 0 ≤ month := by omega
  have hmonth11 : month ≤ 11 := by omega
  simp only [isValid, hmin, hmax, decide_true, Bool.and_self, Bool.true_and, Bool.and_eq_true,
    decide_eq_true_eq]
  simp only [ofMarch, ← hmonth]
  interval_cases month
  case «11» =>
    simp [daysInMonth]
    split
    · omega
    · by_cases h : dayOfYear = 365
      · simp_all
      · omega
  all_goals
    simp [daysInMonth]
    omega

/-- The date of a day exists when its year is in range. -/
theorem isValid_ofDays {days : Int} (hmin : minYear ≤ (ofDays days).year)
    (hmax : (ofDays days).year ≤ maxYear) : (ofDays days).isValid := by
  obtain ⟨year, dayOfYear, hpos, hle, hleap, -, heq⟩ := exists_ofMarch days
  rw [heq] at hmin hmax ⊢
  exact isValid_ofMarch hpos hle hleap hmin hmax

/-! ### Years -/

theorem marchStart_add_le {first last : Int} (hle : first ≤ last) :
    marchStart first + 365 * (last - first) ≤ marchStart last := by
  have hfour : first / 4 ≤ last / 4 := by omega
  have hera : first / 400 ≤ last / 400 := by omega
  have hcentury : first / 4 - first / 100 ≤ last / 4 - last / 100 := by omega
  unfold marchStart
  linarith

theorem year_ofMarch {year dayOfYear : Int} (hpos : 0 ≤ dayOfYear) (hle : dayOfYear ≤ 365) :
    (ofMarch year dayOfYear).year = if dayOfYear < 306 then year else year + 1 := by
  unfold ofMarch
  simp only
  split <;> split <;> split <;> omega

theorem toDays_newYear (year : Int) :
    toDays ⟨year, 1, 1⟩ = marchStart (year - 1) + 306 - 719468 := by
  have hday : ofMarch (year - 1) 306 = ⟨year, 1, 1⟩ := by
    simp [ofMarch]
  rw [← hday, toDays_ofMarch (by decide) (by decide)]

/-- The years follow one another, each from its 1 January. -/
theorem toDays_newYear_le_iff (year days : Int) :
    toDays ⟨year, 1, 1⟩ ≤ days ↔ year ≤ (ofDays days).year := by
  obtain ⟨start, dayOfYear, hpos, hle, -, hdays, heq⟩ := exists_ofMarch days
  rw [heq, year_ofMarch hpos hle, toDays_newYear]
  rcases lt_trichotomy (year - 1) start with hlt | rfl | hgt
  · have := marchStart_add_le hlt.le
    split <;> omega
  · split <;> omega
  · have := marchStart_add_le hgt.le
    split <;> omega

end SeriesSql.Date
