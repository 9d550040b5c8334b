import Mathlib
import SeriesSql.Proofs.Time.Calendar
import SeriesSql.Time.Iso

/-!
# The fields of an instant

An instant is the instant of its date and time of day, in a leap second too. Leaving out fraction
digits changes none of the other fields.
-/

namespace SeriesSql.Timestamp

/-! ### Seconds -/

theorem seconds_eq (t : Timestamp) :
    t.seconds = t.date.toDays * secondsPerDay + (t.secondOfDay : Int) := by
  rw [date, Date.toDays_ofDays]
  unfold secondOfDay secondsPerDay
  omega

theorem hour_lt (t : Timestamp) : t.hour < 24 := by
  unfold hour secondOfDay secondsPerDay
  omega

theorem minute_lt (t : Timestamp) : t.minute < 60 := by
  unfold minute
  omega

theorem fraction_lt (t : Timestamp) : t.fraction < nanosPerSecond :=
  Nat.mod_lt _ (by decide)

/-- An instant is in range when its year is. -/
theorem ofSeconds?_of_year {t : Timestamp} (hmin : Date.minYear ≤ t.date.year)
    (hmax : t.date.year ≤ Date.maxYear) (nanos : Nat) :
    ofSeconds? t.seconds nanos = some ⟨t.seconds, nanos⟩ := by
  have hfirst := (Date.toDays_newYear_le_iff _ _).2 hmin
  have hlast : ¬ Date.toDays ⟨Date.maxYear + 1, 1, 1⟩ ≤ t.seconds / secondsPerDay := by
    rw [Date.toDays_newYear_le_iff]
    exact Int.not_le.2 (Int.lt_add_one_of_le hmax)
  have hnext : Date.toDays ⟨Date.maxYear + 1, 1, 1⟩ = Date.toDays ⟨Date.maxYear, 12, 31⟩ + 1 := by
    decide
  rw [hnext] at hlast
  unfold ofSeconds? minSeconds maxSeconds
  unfold secondsPerDay at *
  rw [if_pos ⟨by omega, by omega⟩]

/-! ### Fractions -/

/-- The instant up to so many fraction digits. -/
def truncate (places : Nat) (t : Timestamp) : Timestamp :=
  { t with
    nanos := t.nanos / Decimal.powerOfTen (9 - places) * Decimal.powerOfTen (9 - places) }

theorem powerOfTen_mul_powerOfTen {places : Nat} (hplaces : places ≤ 9) :
    Decimal.powerOfTen places * Decimal.powerOfTen (9 - places) = nanosPerSecond := by
  interval_cases places <;> rfl

/-- The thousand million nanoseconds of a leap second are not a part of the fraction. -/
theorem nanos_truncate {places : Nat} (hplaces : places ≤ 9) (t : Timestamp) :
    (t.truncate places).nanos =
      t.fraction / Decimal.powerOfTen (9 - places) * Decimal.powerOfTen (9 - places) +
        t.nanos / nanosPerSecond * nanosPerSecond := by
  have hunit := powerOfTen_mul_powerOfTen hplaces
  have hpos : 0 < Decimal.powerOfTen (9 - places) := Nat.pow_pos (by decide)
  rw [truncate, fraction]
  generalize Decimal.powerOfTen (9 - places) = unit at hunit hpos ⊢
  have hsplit := Nat.mod_add_div' t.nanos nanosPerSecond
  rw [← hunit] at hsplit ⊢
  conv_lhs => rw [← hsplit, ← Nat.mul_assoc, Nat.add_mul_div_right _ _ hpos, Nat.add_mul]
  rw [Nat.mul_assoc]

theorem truncate_nine (t : Timestamp) : t.truncate 9 = t := by
  simp [truncate, Decimal.powerOfTen]

theorem truncate_six (t : Timestamp) :
    t.truncate 6 = { t with nanos := t.nanos / 1000 * 1000 } := by
  simp [truncate, Decimal.powerOfTen]

/-! ### Dates and times of day -/

/-- An instant in a year of four digits, where only the end of a minute can be a leap second. -/
structure IsCommon (t : Timestamp) : Prop where
  year_nonneg : 0 ≤ t.date.year
  year_le : t.date.year ≤ 9999
  nanos_lt : t.nanos < 2 * nanosPerSecond
  leap : nanosPerSecond ≤ t.nanos → t.secondOfDay % 60 = 59

namespace IsCommon

variable {t : Timestamp} (ht : t.IsCommon)

include ht

theorem minYear_le : Date.minYear ≤ t.date.year :=
  Int.le_trans (by decide) ht.year_nonneg

theorem le_maxYear : t.date.year ≤ Date.maxYear :=
  Int.le_trans ht.year_le (by decide)

theorem natCast_year : ((t.date.year.natAbs : Nat) : Int) = t.date.year :=
  Int.natAbs_of_nonneg ht.year_nonneg

theorem year_lt : t.date.year.natAbs < 10 ^ 4 := by
  have hcast := ht.natCast_year
  have hle := ht.year_le
  omega

theorem date_isValid : t.date.isValid :=
  Date.isValid_ofDays ht.minYear_le ht.le_maxYear

theorem month_lt : t.date.month < 10 ^ 2 := by
  have hvalid := ht.date_isValid
  simp only [Date.isValid, Bool.and_eq_true, decide_eq_true_eq] at hvalid
  omega

theorem day_lt : t.date.day < 10 ^ 2 := by
  have hvalid := ht.date_isValid
  have hmonth : Date.daysInMonth t.date.year t.date.month ≤ 31 := by
    unfold Date.daysInMonth
    split <;> (try split) <;> omega
  simp only [Date.isValid, Bool.and_eq_true, decide_eq_true_eq] at hvalid
  omega

theorem second_le : t.second ≤ 60 := by
  have hnanos := ht.nanos_lt
  have hleap := ht.leap
  unfold second nanosPerSecond at *
  omega

/-- The second 60 is the one with a thousand million nanoseconds or more. -/
theorem leap_eq : (if t.second = 60 then 1 else 0) = t.nanos / nanosPerSecond := by
  have hnanos := ht.nanos_lt
  have hleap := ht.leap
  unfold second nanosPerSecond at *
  split <;> omega

theorem ofDateTime_fields (fraction : Nat) :
    ofDateTime t.date t.hour t.minute t.second fraction =
      ⟨t.seconds, fraction + t.nanos / nanosPerSecond * nanosPerSecond⟩ := by
  have hsecond : t.second - t.nanos / nanosPerSecond = t.secondOfDay % 60 :=
    Nat.add_sub_cancel _ _
  have hparts : t.hour * 3600 + t.minute * 60 + t.secondOfDay % 60 = t.secondOfDay := by
    unfold hour minute
    omega
  rw [ofDateTime, ht.leap_eq, hsecond, hparts, ← seconds_eq t]

/-- The fields of an instant, with a part of its fraction, are the instant with that part. -/
theorem ofFields?_fields {places : Nat} (hplaces : places ≤ 9) :
    ofFields? ⟨t.date.year.natAbs, t.date.month, t.date.day⟩ t.hour t.minute t.second
      (t.fraction / Decimal.powerOfTen (9 - places) * Decimal.powerOfTen (9 - places)) =
      some (t.truncate places) := by
  have hdate : (⟨t.date.year.natAbs, t.date.month, t.date.day⟩ : Date) = t.date := by
    rw [ht.natCast_year]
  rw [ofFields?, hdate, if_pos ⟨ht.date_isValid, hour_lt t, minute_lt t, ht.second_le⟩,
    ht.ofDateTime_fields, ← nanos_truncate hplaces]
  rfl

end IsCommon

end SeriesSql.Timestamp
