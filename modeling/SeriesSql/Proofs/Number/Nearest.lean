import Mathlib
import SeriesSql.Proofs.Number.Integer
import SeriesSql.Proofs.Number.Rounding

/-!
# The double nearest to a decimal number

A decimal number within the range of doubles becomes a double that none is nearer to, however many
digits it has. An integer with few bits is itself a double, and an even one in the order of the
magnitudes, so every decimal number that it is nearest to becomes this integer.
-/

namespace SeriesSql

/-! ### Decimal numbers of any size -/

/-- The powers of ten around a number with so many digits. -/
theorem decimal_bounds {significand : Nat} (hpos : 0 < significand) (exponent : ℤ) :
    (10 : ℚ) ^ ((Nat.toDigits 10 significand).length + exponent - 1) ≤
        significand * 10 ^ exponent ∧
      (significand * 10 ^ exponent : ℚ) <
        10 ^ ((Nat.toDigits 10 significand).length + exponent) := by
  obtain ⟨k, hk⟩ : ∃ k, (Nat.toDigits 10 significand).length = k + 1 :=
    Nat.exists_eq_succ_of_ne_zero (by simp [Nat.toDigits_ne_nil])
  have hhigh : significand < 10 ^ (k + 1) :=
    (Nat.length_toDigits_le_iff (by decide) (by omega)).1 hk.le
  have hlow : 10 ^ k ≤ significand := by
    rcases k.eq_zero_or_pos with rfl | hkpos
    · exact hpos
    · by_contra hlt
      have hlength := (Nat.length_toDigits_le_iff (by decide) hkpos).2 (not_le.1 hlt)
      omega
  have hten : (0 : ℚ) < 10 ^ exponent := zpow_pos (by norm_num) exponent
  rw [hk]
  constructor
  · have hplace : ((k + 1 : ℕ) : ℤ) + exponent - 1 = k + exponent := by
      push_cast
      ring
    rw [hplace, zpow_add₀ (by norm_num), zpow_natCast]
    exact mul_le_mul_of_nonneg_right (by exact_mod_cast hlow) hten.le
  · rw [zpow_add₀ (by norm_num), zpow_natCast]
    exact mul_lt_mul_of_pos_right (by exact_mod_cast hhigh) hten

theorem two_pow_le_ten_pow (k : Nat) : (2 : ℚ) ^ (3 * k) ≤ 10 ^ k := by
  rw [pow_mul]
  exact pow_le_pow_left₀ (by norm_num) (by norm_num) k

theorem ten_zpow_neg_le (k : Nat) : (10 : ℚ) ^ (-(k : ℤ)) ≤ 2 ^ (-((3 * k : ℕ) : ℤ)) := by
  rw [zpow_neg, zpow_neg, zpow_natCast, zpow_natCast]
  exact inv_anti₀ (by positivity) (two_pow_le_ten_pow k)

namespace BinaryFormat

theorem double_binade : double.binade = 2 ^ 52 := by
  decide

theorem double_bottom : double.bottom = -1074 :=
  rfl

theorem double_magnitude_one : double.magnitude 1 = 2 ^ (-1074 : ℤ) := by
  have hone := double.magnitude_of_place (k := 0) (m := 1) (by rw [double_binade]; norm_num)
    (.inl rfl)
  simpa [double_bottom] using hone

/-- The first magnitude above the finite ones. -/
theorem double_magnitude_magnitudes : double.magnitude double.magnitudes = 2 ^ 1024 := by
  have hplace : double.magnitudes = 2046 * double.binade + double.binade := by decide
  rw [hplace, double.magnitude_of_place (by omega) (.inr le_rfl), double_binade, double_bottom,
    Nat.cast_pow, Nat.cast_ofNat, ← zpow_natCast, ← zpow_add₀ (by norm_num), ← zpow_natCast]
  norm_num

/-- The last magnitude before those that are infinite. -/
theorem double_magnitude_last : double.magnitude (double.magnitudes - 1) = 2 ^ 1024 - 2 ^ 971 := by
  have hplace : double.magnitudes - 1 = 2045 * double.binade + (2 * double.binade - 1) := by decide
  have hlast : ((2 * double.binade - 1 : ℕ) : ℚ) = 2 ^ 53 - 1 := by
    rw [double_binade]
    norm_num
  have hunit : (2 : ℚ) ^ (double.bottom + (2045 : ℕ)) = 2 ^ 971 := by
    rw [double_bottom]
    exact zpow_natCast 2 971
  rw [hplace, double.magnitude_of_place (by omega) (.inr (by rw [double_binade]; norm_num)), hlast,
    hunit, sub_mul, one_mul, ← pow_add]

/-- The numbers up to half of the least magnitude are nearest to zero. -/
theorem isNearest_zero_iff {v : ℚ} (hv : 0 ≤ v) :
    double.IsNearest v 0 ↔ 2 * v ≤ double.magnitude 1 := by
  obtain ⟨rank, hrank⟩ := @exists_isNearest double (by decide) _ hv
  have hle := hrank.le_iff 0
  rw [magnitude_zero, zero_add, and_iff_left rfl, ← le_iff_lt_or_eq, Nat.le_zero] at hle
  rw [← hle]
  exact ⟨hrank.unique, fun h => h ▸ hrank⟩

theorem isNearest_zero_of_place {significand : Nat} {exponent : ℤ}
    (hplace : significand = 0 ∨ (Nat.toDigits 10 significand).length + exponent < -400) :
    double.IsNearest (significand * 10 ^ exponent) 0 := by
  apply (isNearest_zero_iff (by positivity)).2
  rw [double_magnitude_one]
  rcases Nat.eq_zero_or_pos significand with rfl | hpos
  · rw [Nat.cast_zero, zero_mul, mul_zero]
    positivity
  · obtain ⟨-, hhigh⟩ := decimal_bounds hpos exponent
    refine le_of_lt ?_
    calc 2 * (significand * 10 ^ exponent : ℚ)
        < 2 * 10 ^ ((Nat.toDigits 10 significand).length + exponent) := by linarith
      _ ≤ 2 * 10 ^ (-(400 : ℕ) : ℤ) := by
        gcongr
        · norm_num
        · omega
      _ ≤ 2 * 2 ^ (-((3 * 400 : ℕ) : ℤ)) := by
        gcongr
        exact ten_zpow_neg_le 400
      _ = 2 ^ (1 + -((3 * 400 : ℕ) : ℤ)) := (zpow_one_add₀ (by norm_num) _).symm
      _ ≤ 2 ^ (-1074 : ℤ) := zpow_le_zpow_right₀ (by norm_num) (by norm_num)

/-- The numbers that are rounded to a finite magnitude end halfway between the last one and the first
infinite one, whose rank is even. -/
theorem IsNearest.lt_magnitudes_iff {v : ℚ} {rank : Nat} (h : double.IsNearest v rank) :
    rank < double.magnitudes ↔ v < 2 ^ 1024 - 2 ^ 970 := by
  have hle := h.le_iff (double.magnitudes - 1)
  have hodd : ¬ (double.magnitudes - 1) % 2 = 0 := by decide
  have hpositive : 0 < double.magnitudes := by decide
  rw [Nat.sub_add_cancel hpositive, double_magnitude_last, double_magnitude_magnitudes,
    or_iff_left (mt And.right hodd)] at hle
  rw [Nat.lt_iff_le_pred hpositive, hle, pow_succ' 2 970]
  generalize (2 : ℚ) ^ 1024 = bound
  generalize (2 : ℚ) ^ 970 = half
  constructor <;> intro h <;> linarith

theorem isNearest_decimal (significand : Nat) (exponent : ℤ) :
    double.IsNearest (significand * 10 ^ exponent)
      (double.nearestRank (significand * Decimal.powerOfTen exponent.toNat)
        (Decimal.powerOfTen (-exponent).toNat)) := by
  have hpositive : ∀ n, 0 < Decimal.powerOfTen n := fun n => Nat.pow_pos (by decide)
  have hprecision : 2 ≤ double.precision := by decide
  have hnearest := isNearest_nearestRank hprecision
    (significand * Decimal.powerOfTen exponent.toNat) (hpositive (-exponent).toNat)
  have hten : (10 : ℚ) ^ exponent =
      (Decimal.powerOfTen exponent.toNat : ℕ) / (Decimal.powerOfTen (-exponent).toNat : ℕ) := by
    obtain ⟨n, rfl | rfl⟩ := exponent.eq_nat_or_neg
    · simp [Decimal.powerOfTen]
    · simp [Decimal.powerOfTen]
  rwa [Nat.cast_mul, mul_div_assoc, ← hten] at hnearest

theorem infinite_le_ten_pow : (2 ^ 1024 - 2 ^ 970 : ℚ) ≤ 10 ^ 400 :=
  calc (2 ^ 1024 - 2 ^ 970 : ℚ) ≤ 2 ^ 1024 := sub_le_self _ (by positivity)
    _ ≤ 2 ^ (3 * 400) := pow_le_pow_right₀ (by norm_num) (by norm_num)
    _ ≤ 10 ^ 400 := two_pow_le_ten_pow 400

/-- A number that is not looked at is close enough to zero, or too great to be finite. -/
theorem isNearest_or_infinite (significand : Nat) (exponent : ℤ) :
    double.IsNearest (significand * 10 ^ exponent)
        (double.nearestRankOfDecimal significand exponent) ∨
      double.magnitudes ≤ double.nearestRankOfDecimal significand exponent ∧
        (2 ^ 1024 - 2 ^ 970 : ℚ) ≤ significand * 10 ^ exponent := by
  simp only [nearestRankOfDecimal, Bool.or_eq_true, decide_eq_true_eq]
  split
  · rename_i hsmall
    exact .inl (isNearest_zero_of_place hsmall)
  · split
    · rename_i hzero hlarge
      right
      obtain ⟨hlow, -⟩ := decimal_bounds (Nat.pos_of_ne_zero fun h => hzero (.inl h)) exponent
      constructor
      · have hnearest := isNearest_decimal 1 400
        rw [Nat.one_mul, Nat.cast_one, one_mul] at hnearest
        exact not_lt.1 fun h => absurd (hnearest.lt_magnitudes_iff.1 h)
          (not_lt.2 infinite_le_ten_pow)
      · refine infinite_le_ten_pow.trans (le_trans ?_ hlow)
        rw [← zpow_natCast]
        exact zpow_le_zpow_right₀ (by norm_num) (by omega)
    · exact .inl (isNearest_decimal significand exponent)

/-- A finite rank is that of the nearest magnitude, also where the number is not looked at. -/
theorem nearestRankOfDecimal_eq_iff {significand : Nat} {exponent : ℤ} {rank : Nat}
    (hrank : rank < double.magnitudes) :
    double.nearestRankOfDecimal significand exponent = rank ↔
      double.IsNearest (significand * 10 ^ exponent) rank := by
  rcases isNearest_or_infinite significand exponent with hnearest | ⟨hinfinite, hlarge⟩
  · exact ⟨fun h => h ▸ hnearest, hnearest.unique⟩
  · constructor
    · omega
    · intro hnearest
      exact absurd (hnearest.lt_magnitudes_iff.1 hrank) (not_lt.2 hlarge)

theorem nearestRankOfDecimal_eq_zero_iff {significand : Nat} {exponent : ℤ} :
    double.nearestRankOfDecimal significand exponent = 0 ↔
      (significand * 10 ^ exponent : ℚ) ≤ 2 ^ (-1075 : ℤ) := by
  have hhalf : (2 : ℚ) ^ (-1074 : ℤ) = 2 * 2 ^ (-1075 : ℤ) := by
    rw [← zpow_one_add₀ (by norm_num)]
    norm_num
  rw [nearestRankOfDecimal_eq_iff (by decide), isNearest_zero_iff (by positivity),
    double_magnitude_one, hhalf]
  exact mul_le_mul_iff_right₀ (by norm_num)

theorem nearestRankOfDecimal_lt_iff {significand : Nat} {exponent : ℤ} :
    double.nearestRankOfDecimal significand exponent < double.magnitudes ↔
      (significand * 10 ^ exponent : ℚ) < 2 ^ 1024 - 2 ^ 970 := by
  rcases isNearest_or_infinite significand exponent with hnearest | ⟨hinfinite, hlarge⟩
  · exact hnearest.lt_magnitudes_iff
  · exact iff_of_false (not_lt.2 hinfinite) (not_lt.2 hlarge)

/-- A natural number of up to 52 bits is a magnitude, and its rank is even. -/
theorem exists_rank {n : Nat} (hn : n < 2 ^ 52) :
    ∃ rank, rank + 1 < double.magnitudes ∧ rank % 2 = 0 ∧ double.magnitude rank = n := by
  rcases n.eq_zero_or_pos with rfl | hpos
  · exact ⟨0, by decide, rfl, by simp⟩
  · have hlow := Nat.log2_self_le hpos.ne'
    have hhigh := @Nat.lt_log2_self n
    have hbits : n.log2 < 52 := (Nat.log2_lt hpos.ne').2 hn
    obtain ⟨j, hj⟩ := Nat.exists_eq_add_of_lt hbits
    obtain ⟨b, hb⟩ : ∃ b, b = n.log2 := ⟨_, rfl⟩
    rw [← hb] at hlow hhigh hj
    have hshift : 2 ^ 52 = 2 ^ b * 2 ^ (j + 1) := by
      rw [hj, ← pow_add]
      congr 1
    have hstart : 2 ^ 52 ≤ n * 2 ^ (j + 1) := by
      rw [hshift]
      exact Nat.mul_le_mul_right _ hlow
    have hend : n * 2 ^ (j + 1) ≤ 2 * 2 ^ 52 := by
      rw [hshift, ← mul_assoc, ← pow_succ']
      exact Nat.mul_le_mul_right _ hhigh.le
    refine ⟨(b + 1022) * double.binade + n * 2 ^ (j + 1), ?_, ?_, ?_⟩
    · have hmul : (b + 1022) * 2 ^ 52 ≤ 1074 * 2 ^ 52 := Nat.mul_le_mul_right _ (by omega)
      rw [double_binade]
      change _ + 1 < 0x7FF0000000000000
      omega
    · rw [double_binade, pow_succ' (2 : ℕ) j, Nat.mul_left_comm]
      omega
    · rw [double.magnitude_of_place (by rwa [double_binade]) (by rw [double_binade]; omega),
        double_bottom]
      push_cast
      rw [mul_assoc, ← zpow_natCast (2 : ℚ) (j + 1), ← zpow_add₀ (by norm_num)]
      have hexponent : ((j + 1 : ℕ) : ℤ) + (-1074 + (b + 1022)) = 0 := by
        push_cast
        omega
      rw [hexponent, zpow_zero, mul_one]

/-- It is enough to compare with the finite magnitudes. -/
theorem isNearest_of_finite {v : ℚ} {rank : Nat} (hrank : rank + 1 < double.magnitudes)
    (hnear : ∀ s < double.magnitudes, |v - double.magnitude rank| ≤ |v - double.magnitude s|)
    (heven : rank % 2 = 0) : double.IsNearest v rank := by
  refine ⟨fun s => ?_, fun _ _ _ => heven⟩
  rcases Nat.lt_or_ge s double.magnitudes with hs | hs
  · exact hnear s hs
  · have hnext := hnear (rank + 1) hrank
    have hlt := double.magnitude_lt_succ rank
    have hv : v < double.magnitude (rank + 1) := by
      by_contra hle
      rw [abs_of_nonneg (by linarith), abs_of_nonneg (by linarith)] at hnext
      linarith
    have hle := double.magnitude_strictMono.monotone (hrank.le.trans hs)
    rw [abs_of_neg (show v - double.magnitude (rank + 1) < 0 by linarith)] at hnext
    rw [abs_of_neg (show v - double.magnitude s < 0 by linarith)]
    linarith

end BinaryFormat

open BinaryFormat

/-! ### The integer that a decimal number is nearest to -/

def signed (negative : Bool) : ℚ :=
  if negative then -1 else 1

@[simp] theorem signed_false : signed false = 1 :=
  rfl

@[simp] theorem signed_true : signed true = -1 :=
  rfl

theorem abs_signed_mul (negative : Bool) (x : ℚ) : |signed negative * x| = |x| := by
  cases negative <;> simp

theorem signed_mul_natAbs {negative : Bool} {u : ℚ} {n : ℤ}
    (h : |signed negative * u - n| ≤ u) : signed negative * n.natAbs = n := by
  rw [abs_le] at h
  cases negative with
  | false =>
    have hn : 0 ≤ n := by
      by_contra hlt
      have hcast : (n : ℚ) < 0 := by exact_mod_cast not_le.1 hlt
      rw [signed_false, one_mul] at h
      linarith [h.2]
    rw [Nat.cast_natAbs, abs_of_nonneg hn, signed_false, one_mul]
  | true =>
    have hn : n ≤ 0 := by
      by_contra hlt
      have hcast : (0 : ℚ) < n := by exact_mod_cast not_le.1 hlt
      rw [signed_true, neg_one_mul] at h
      linarith [h.1]
    rw [Nat.cast_natAbs, abs_of_nonpos hn, Int.cast_neg, signed_true, neg_mul_neg, one_mul]

namespace Decimal

def value (d : Decimal) : ℚ :=
  signed d.negative * (d.significand * 10 ^ d.exponent)

theorem abs_value (d : Decimal) : |d.value| = d.significand * 10 ^ d.exponent := by
  rw [value, abs_signed_mul, abs_of_nonneg (by positivity)]

end Decimal

namespace Double

def value (negative : Bool) (rank : Fin 0x7FF0000000000000) : ℚ :=
  signed negative * double.magnitude rank

/-- No finite double is nearer to `v` than `w` is. -/
def NoneNearer (v w : ℚ) : Prop :=
  ∀ negative rank, |v - w| ≤ |v - value negative rank|

/-- Doubles of the other sign are not nearer. -/
theorem noneNearer_signed_iff (negative : Bool) {u w : ℚ} (hu : 0 ≤ u) :
    NoneNearer (signed negative * u) (signed negative * w) ↔
      ∀ rank < double.magnitudes, |u - w| ≤ |u - double.magnitude rank| := by
  have hdist : ∀ x, |signed negative * u - signed negative * x| = |u - x| := by
    intro x
    rw [← mul_sub, abs_signed_mul]
  constructor
  · intro h rank hrank
    have hnear := h negative ⟨rank, hrank⟩
    rwa [value, hdist, hdist] at hnear
  · intro h sign rank
    have hnear := h rank rank.isLt
    rw [hdist, value]
    rcases eq_or_ne sign negative with rfl | hne
    · rwa [hdist]
    · have hother : signed sign = -signed negative := by
        cases sign <;> cases negative <;> simp_all
      have hm := double.magnitude_nonneg rank
      rw [hother, neg_mul, ← mul_neg, hdist]
      refine hnear.trans ?_
      rw [sub_neg_eq_add, abs_of_nonneg (add_nonneg hu hm)]
      exact abs_le.2 ⟨by linarith, by linarith⟩

/-- A double without a fraction is an integer. -/
theorem toInt?_finite_eq_some_iff {negative : Bool} {rank : Fin 0x7FF0000000000000} {n : ℤ} :
    (finite negative rank).toInt? = some n ↔ value negative rank = n := by
  obtain ⟨e, he⟩ : ∃ e, e = double.exponent rank := ⟨_, rfl⟩
  obtain ⟨num, hnum⟩ : ∃ num, num = double.significand rank <<< e.toNat := ⟨_, rfl⟩
  obtain ⟨den, hden⟩ : ∃ den, den = 1 <<< (-e).toNat := ⟨_, rfl⟩
  have hpositive : 0 < den := by
    rw [hden, Nat.shiftLeft_eq]
    positivity
  have hmagnitude : double.magnitude rank = num / den := by
    have hquotient := shifted_quotient (double.significand rank) 1 (-e)
    rw [neg_neg, ← hnum, ← hden, Nat.cast_one, div_one, zpow_neg, div_inv_eq_mul, he] at hquotient
    exact hquotient.symm
  have hd : (den : ℚ) ≠ 0 := by exact_mod_cast hpositive.ne'
  simp only [toInt?, ← he, ← hnum, ← hden]
  rw [value, hmagnitude]
  split
  · rename_i hmod
    obtain ⟨q, rfl⟩ := Nat.dvd_of_mod_eq_zero hmod
    rw [Nat.mul_div_cancel_left _ hpositive, Nat.cast_mul, mul_div_cancel_left₀ _ hd,
      Option.some_inj, ← Int.cast_inj (α := ℚ)]
    cases negative <;> simp
  · rename_i hmod
    refine ⟨nofun, fun h => absurd ?_ hmod⟩
    apply Nat.mod_eq_zero_of_dvd
    have habs : (num / den : ℚ) = n.natAbs := by
      rw [← abs_of_nonneg (by positivity : (0 : ℚ) ≤ num / den), ← abs_signed_mul negative, h,
        Nat.cast_natAbs, Int.cast_abs]
    rw [div_eq_iff hd] at habs
    exact ⟨n.natAbs, by rw [mul_comm]; exact_mod_cast habs⟩

theorem ofDecimal_eq_finite_iff {d : Decimal} {negative : Bool}
    {rank : Fin 0x7FF0000000000000} :
    ofDecimal d = finite negative rank ↔
      d.negative = negative ∧ double.IsNearest (d.significand * 10 ^ d.exponent) rank := by
  rw [← nearestRankOfDecimal_eq_iff rank.isLt, ofDecimal, ofRank]
  split
  · rw [finite.injEq, Fin.ext_iff]
  · rename_i hinfinite
    refine ⟨nofun, fun ⟨_, h⟩ => ?_⟩
    exact absurd (h ▸ rank.isLt) hinfinite

/-- A decimal number becomes a finite double below the first number that is rounded to infinity. -/
theorem isFinite_ofDecimal_iff {d : Decimal} :
    (ofDecimal d).isFinite ↔ |d.value| < 2 ^ 1024 - 2 ^ 970 := by
  rw [d.abs_value, ← nearestRankOfDecimal_lt_iff, ofDecimal, ofRank]
  split
  · rename_i hfinite
    exact iff_of_true rfl hfinite
  · rename_i hinfinite
    exact iff_of_false nofun hinfinite

theorem ofDecimal_of_not_isFinite {d : Decimal} (h : ¬ (ofDecimal d).isFinite) :
    ofDecimal d = infinite d.negative := by
  rw [ofDecimal, ofRank] at h ⊢
  split
  · rename_i hfinite
    rw [dif_pos hfinite] at h
    exact absurd rfl h
  · rfl

/-- A decimal number becomes a finite double other than zero between half of the least magnitude and
the first number that is rounded to infinity. -/
theorem ofDecimal_nonzero_iff {d : Decimal} :
    (ofDecimal d).isFinite ∧ (ofDecimal d).isZero = false ↔
      2 ^ (-1075 : ℤ) < |d.value| ∧ |d.value| < 2 ^ 1024 - 2 ^ 970 := by
  rw [d.abs_value, ← not_le, ← nearestRankOfDecimal_eq_zero_iff, ← nearestRankOfDecimal_lt_iff,
    ofDecimal, ofRank]
  split
  · rename_i hfinite
    simp only [isFinite, isZero, beq_eq_false_iff_ne, true_and]
    exact (and_iff_left hfinite).symm
  · rename_i hinfinite
    exact iff_of_false (fun h => nomatch h.1) fun h => hinfinite h.2

/-- A decimal number becomes a small integer exactly if no double is nearer to it. -/
theorem toInt?_ofDecimal_eq_some_iff {d : Decimal} {n : ℤ} (hn : n.natAbs < 2 ^ 52) :
    (ofDecimal d).toInt? = some n ↔ NoneNearer d.value n := by
  have hnonneg : (0 : ℚ) ≤ d.significand * 10 ^ d.exponent := by positivity
  constructor
  · intro h
    cases hdouble : ofDecimal d with
    | nan => cases hdouble ▸ h
    | infinite => cases hdouble ▸ h
    | finite negative rank =>
      rw [hdouble, toInt?_finite_eq_some_iff] at h
      obtain ⟨rfl, hnearest⟩ := ofDecimal_eq_finite_iff.1 hdouble
      rw [← h, Decimal.value, value, noneNearer_signed_iff _ hnonneg]
      exact fun s _ => hnearest.near s
  · intro h
    obtain ⟨rank, hrank, heven, hmagnitude⟩ := exists_rank hn
    -- Zero is a double, so the integer does not have the opposite sign.
    have hzero := h false 0
    rw [Decimal.value, value, Fin.val_zero, magnitude_zero, mul_zero, sub_zero, abs_signed_mul,
      abs_of_nonneg hnonneg] at hzero
    have hsign := signed_mul_natAbs hzero
    rw [← hsign, Decimal.value, noneNearer_signed_iff _ hnonneg] at h
    have hfinite : ofDecimal d = finite d.negative ⟨rank, Nat.lt_of_succ_lt hrank⟩ := by
      refine ofDecimal_eq_finite_iff.2 ⟨rfl, isNearest_of_finite hrank ?_ heven⟩
      rw [hmagnitude]
      exact h
    rw [hfinite, toInt?_finite_eq_some_iff, value, hmagnitude, hsign]

theorem exists_value {n : ℤ} (hn : n.natAbs < 2 ^ 52) :
    ∃ negative rank, value negative rank = n := by
  obtain ⟨rank, hrank, -, hmagnitude⟩ := exists_rank hn
  refine ⟨decide (n < 0), ⟨rank, Nat.lt_of_succ_lt hrank⟩, ?_⟩
  rw [value, hmagnitude, Nat.cast_natAbs]
  rcases lt_or_ge n 0 with hneg | hpos
  · simp [hneg, abs_of_neg hneg]
  · simp [not_lt.2 hpos, abs_of_nonneg hpos]

/-- Two integers are told apart by the doubles if one of them is small. -/
theorem noneNearer_int_iff {m n : ℤ} (hn : n.natAbs + 1 < 2 ^ 52) : NoneNearer m n ↔ m = n := by
  constructor
  · intro h
    have hint : ∀ k : ℤ, k.natAbs < 2 ^ 52 → (m - n).natAbs ≤ (m - k).natAbs := by
      intro k hk
      obtain ⟨negative, rank, hvalue⟩ := exists_value hk
      have hnear := h negative rank
      rw [hvalue] at hnear
      have habs : |m - n| ≤ |m - k| := by exact_mod_cast hnear
      rwa [Int.abs_eq_natAbs, Int.abs_eq_natAbs, Int.ofNat_le] at habs
    have hself := hint m
    have hhigh := hint (2 ^ 52 - 1)
    have hlow := hint (-(2 ^ 52 - 1))
    omega
  · rintro rfl negative rank
    rw [sub_self, abs_zero]
    exact abs_nonneg _

end Double
end SeriesSql
