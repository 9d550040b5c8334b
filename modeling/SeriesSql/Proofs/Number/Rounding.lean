import Mathlib
import SeriesSql.Number.Double

/-!
# Rounding to the nearest magnitude

The magnitudes of a binary format grow with their rank. A quotient is rounded to a magnitude that
none is nearer to, and of two that are equally near to the one with the even rank. This determines
the rank, so it says all that rounding does.

A quotient is rounded on a grid. Its magnitudes are the multiples of a power of two, and all others
lie below the quotient, further away than the first one of the grid.
-/

namespace SeriesSql.BinaryFormat

/-! ### Rounding to an integer -/

section Integer

variable (num : Nat) {den : Nat}

theorem roundHalfEven_bounds (hden : 0 < den) :
    2 * num ≤ 2 * (roundHalfEven num den * den) + den ∧
      2 * (roundHalfEven num den * den) ≤ 2 * num + den ∧
      (2 * num = 2 * (roundHalfEven num den * den) + den ∨
        2 * (roundHalfEven num den * den) = 2 * num + den → roundHalfEven num den % 2 = 0) := by
  have hnum := Nat.div_add_mod' num den
  have hrest := Nat.mod_lt num hden
  simp only [roundHalfEven]
  generalize num / den = quotient at *
  generalize num % den = rest at *
  split
  · omega
  · split
    · rw [Nat.add_mul]
      omega
    · rcases Nat.mod_two_eq_zero_or_one quotient with heven | hodd
      · rw [heven, Nat.add_zero]
        omega
      · rw [hodd, Nat.add_mul]
        omega

/-- The rounded quotient is at most half away from the exact one, and even if it is half away. -/
theorem abs_sub_roundHalfEven (hden : 0 < den) :
    |(num / den : ℚ) - roundHalfEven num den| ≤ 1 / 2 ∧
      (|(num / den : ℚ) - roundHalfEven num den| = 1 / 2 → roundHalfEven num den % 2 = 0) := by
  obtain ⟨hlow, hhigh, heven⟩ := roundHalfEven_bounds num hden
  generalize roundHalfEven num den = r at *
  have hd : (0 : ℚ) < den := by exact_mod_cast hden
  have hscale : (num / den : ℚ) - r = (2 * num - 2 * (r * den)) / (2 * den) := by
    field_simp
  have hl : (2 * num : ℚ) ≤ 2 * (r * den) + den := by exact_mod_cast hlow
  have hh : (2 * (r * den) : ℚ) ≤ 2 * num + den := by exact_mod_cast hhigh
  rw [hscale, abs_div, abs_of_pos (by positivity : (0 : ℚ) < 2 * den)]
  constructor
  · rw [div_le_iff₀ (by positivity), abs_le]
    constructor <;> linarith
  · intro hhalf
    rw [div_eq_iff (by positivity)] at hhalf
    apply heven
    rcases abs_cases (2 * num - 2 * (r * den) : ℚ) with ⟨habs, -⟩ | ⟨habs, -⟩
    · left
      have h : (2 * num : ℚ) = 2 * (r * den) + den := by linarith
      exact_mod_cast h
    · right
      have h : (2 * (r * den) : ℚ) = 2 * num + den := by linarith
      exact_mod_cast h

theorem half_le_abs_sub {q : ℚ} {r j : ℤ} (hr : |q - r| ≤ 1 / 2) (hj : j ≠ r) :
    1 / 2 ≤ |q - j| := by
  have hone : (1 : ℚ) ≤ |(j : ℚ) - r| := by
    have h : 1 ≤ |j - r| := Int.one_le_abs (sub_ne_zero.2 hj)
    exact_mod_cast h
  have htriangle : |(j : ℚ) - r| ≤ |q - r| + |q - j| := by
    rw [abs_sub_comm q (j : ℚ), add_comm]
    exact abs_sub_le (j : ℚ) q r
  linarith

/-- No integer is nearer to a quotient than the rounded one. -/
theorem roundHalfEven_nearest (hden : 0 < den) (j : ℤ) :
    |(num / den : ℚ) - roundHalfEven num den| ≤ |(num / den : ℚ) - j| := by
  by_cases hj : j = (roundHalfEven num den : ℤ)
  · rw [hj, Int.cast_natCast]
  · have hhalf := (abs_sub_roundHalfEven num hden).1
    exact hhalf.trans (half_le_abs_sub (by exact_mod_cast hhalf) hj)

/-- Of two equally near integers the rounded quotient is the even one. -/
theorem roundHalfEven_even (hden : 0 < den) {j : ℤ} (hj : j ≠ (roundHalfEven num den : ℤ))
    (htie : |(num / den : ℚ) - roundHalfEven num den| = |(num / den : ℚ) - j|) :
    roundHalfEven num den % 2 = 0 := by
  obtain ⟨hhalf, heven⟩ := abs_sub_roundHalfEven num hden
  apply heven
  exact le_antisymm hhalf (htie ▸ half_le_abs_sub (by exact_mod_cast hhalf) hj)

theorem roundHalfEven_le (hden : 0 < den) {j : ℕ} (hj : (num / den : ℚ) ≤ j) :
    roundHalfEven num den ≤ j := by
  by_contra hlt
  have hcast : (j : ℚ) < roundHalfEven num den := by exact_mod_cast not_le.1 hlt
  have hnear := roundHalfEven_nearest num hden j
  rw [Int.cast_natCast, abs_of_neg (by linarith), abs_of_nonpos (by linarith)] at hnear
  linarith

theorem le_roundHalfEven (hden : 0 < den) {j : ℕ} (hj : (j : ℚ) ≤ num / den) :
    j ≤ roundHalfEven num den := by
  by_contra hlt
  have hcast : (roundHalfEven num den : ℚ) < j := by exact_mod_cast not_le.1 hlt
  have hnear := roundHalfEven_nearest num hden j
  rw [Int.cast_natCast, abs_of_pos (by linarith), abs_of_nonneg (by linarith)] at hnear
  linarith

end Integer

/-! ### Powers of two -/

section Power

variable {num den : Nat}

theorem two_zpow_eq (k : ℤ) : (2 : ℚ) ^ k = (2 ^ k.toNat : ℕ) / (2 ^ (-k).toNat : ℕ) := by
  obtain ⟨n, rfl | rfl⟩ := k.eq_nat_or_neg
  · simp
  · simp

/-- Shifting the two sides of a quotient divides it by a power of two. -/
theorem shifted_quotient (num den : Nat) (e : ℤ) :
    ((num <<< (-e).toNat : ℕ) / (den <<< e.toNat : ℕ) : ℚ) = num / den / 2 ^ e := by
  rw [Nat.shiftLeft_eq, Nat.shiftLeft_eq, two_zpow_eq]
  push_cast
  rw [div_div_div_eq, mul_comm (den : ℚ)]

theorem shifted_lt_iff (hden : 0 < den) (k : ℤ) :
    num <<< (-k).toNat < den <<< k.toNat ↔ (num / den : ℚ) < 2 ^ k := by
  have hpositive : (0 : ℚ) < (den <<< k.toNat : ℕ) := by
    rw [Nat.shiftLeft_eq]
    positivity
  rw [← div_lt_one (zpow_pos (by norm_num : (0 : ℚ) < 2) k), ← shifted_quotient,
    div_lt_one hpositive, Nat.cast_lt]

/-- The greatest power of two that does not exceed a quotient. -/
theorem floorLog2_bounds (hnum : 0 < num) (hden : 0 < den) :
    (2 : ℚ) ^ floorLog2 num den ≤ num / den ∧ (num / den : ℚ) < 2 ^ (floorLog2 num den + 1) := by
  have hd : (0 : ℚ) < den := by exact_mod_cast hden
  have hnumLow : (2 : ℚ) ^ (num.log2 : ℤ) ≤ num := by
    rw [zpow_natCast]
    exact_mod_cast Nat.log2_self_le hnum.ne'
  have hnumHigh : (num : ℚ) < 2 ^ ((num.log2 : ℤ) + 1) := by
    rw [← Nat.cast_succ, zpow_natCast]
    exact_mod_cast Nat.lt_log2_self
  have hdenLow : (2 : ℚ) ^ (den.log2 : ℤ) ≤ den := by
    rw [zpow_natCast]
    exact_mod_cast Nat.log2_self_le hden.ne'
  have hdenHigh : (den : ℚ) < 2 ^ ((den.log2 : ℤ) + 1) := by
    rw [← Nat.cast_succ, zpow_natCast]
    exact_mod_cast Nat.lt_log2_self
  obtain ⟨k, hk⟩ : ∃ k : ℤ, k = (num.log2 : ℤ) - den.log2 := ⟨_, rfl⟩
  have hlow : (2 : ℚ) ^ (k - 1) ≤ num / den := by
    rw [le_div_iff₀ hd]
    calc (2 : ℚ) ^ (k - 1) * den ≤ 2 ^ (k - 1) * 2 ^ ((den.log2 : ℤ) + 1) := by gcongr
      _ = 2 ^ (num.log2 : ℤ) := by rw [← zpow_add₀ (by norm_num)]; congr 1; omega
      _ ≤ num := hnumLow
  have hhigh : (num / den : ℚ) < 2 ^ (k + 1) := by
    rw [div_lt_iff₀ hd]
    calc (num : ℚ) < 2 ^ ((num.log2 : ℤ) + 1) := hnumHigh
      _ = 2 ^ (k + 1) * 2 ^ (den.log2 : ℤ) := by rw [← zpow_add₀ (by norm_num)]; congr 1; omega
      _ ≤ 2 ^ (k + 1) * den := by gcongr
  rw [floorLog2]
  simp only [← hk]
  split
  · rename_i h
    rw [shifted_lt_iff hden] at h
    exact ⟨hlow, by rwa [sub_add_cancel]⟩
  · rename_i h
    rw [shifted_lt_iff hden, not_lt] at h
    exact ⟨h, hhigh⟩

end Power

/-! ### Magnitudes -/

section Magnitude

variable (format : BinaryFormat)

def magnitude (rank : Nat) : ℚ :=
  format.significand rank * 2 ^ format.exponent rank

theorem binade_pos : 0 < format.binade := by
  rw [binade, Nat.shiftLeft_eq]
  positivity

variable {format} in
theorem binade_even (hprecision : 2 ≤ format.precision) : format.binade % 2 = 0 := by
  obtain ⟨p, hp⟩ := Nat.exists_eq_add_of_le hprecision
  rw [binade, Nat.shiftLeft_eq, hp]
  simp [Nat.pow_add, show 2 + p - 1 = 1 + p by omega]

/-- Every rank is counted within its binade. -/
theorem exists_place (rank : Nat) :
    ∃ k m, rank = k * format.binade + m ∧ m < 2 * format.binade ∧ (k = 0 ∨ format.binade ≤ m) := by
  have hpos := format.binade_pos
  by_cases hrank : rank < format.binade
  · exact ⟨0, rank, by omega, by omega, .inl rfl⟩
  · have hquotient : 1 ≤ rank / format.binade := (Nat.one_le_div_iff hpos).2 (by omega)
    have hmod := Nat.mod_lt rank hpos
    refine ⟨rank / format.binade - 1, format.binade + rank % format.binade, ?_, by omega,
      .inr (by omega)⟩
    have hrank := Nat.div_add_mod' rank format.binade
    obtain ⟨k, hk⟩ := Nat.exists_eq_add_of_le hquotient
    rw [hk, Nat.add_mul] at hrank
    rw [hk, Nat.add_sub_cancel_left]
    omega

/-- A place in a binade, the start of the next binade included, is a multiple of the binade's
unit. -/
theorem magnitude_of_place {k m : Nat} (hm : m ≤ 2 * format.binade)
    (hk : k = 0 ∨ format.binade ≤ m) :
    format.magnitude (k * format.binade + m) = m * 2 ^ (format.bottom + k) := by
  have hpos := format.binade_pos
  rw [magnitude, significand, exponent]
  generalize format.binade = b at *
  by_cases hsmall : k * b + m < b
  · obtain rfl : k = 0 := hk.resolve_right (by omega)
    rw [if_pos hsmall, if_pos hsmall]
    simp
  · rw [if_neg hsmall, if_neg hsmall]
    rcases Nat.lt_or_ge m (2 * b) with hlt | hge
    · -- Within the binade the quotient is one above `k`.
      have hb : b ≤ m := by
        rcases hk with rfl | hb
        · omega
        · exact hb
      have hplace : k * b + m = (m - b) + (k + 1) * b := by
        rw [Nat.add_mul]
        omega
      rw [hplace, Nat.add_mul_mod_self_right, Nat.mod_eq_of_lt (by omega),
        Nat.add_mul_div_right _ _ hpos, Nat.div_eq_of_lt (by omega), Nat.add_sub_cancel' hb]
      congr 2
      push_cast
      ring
    · obtain rfl : m = 2 * b := by omega
      have hplace : k * b + 2 * b = (k + 2) * b := by ring
      rw [hplace, Nat.mul_mod_left, Nat.mul_div_cancel _ hpos, Nat.add_zero]
      have hexponent : format.bottom + ((k + 2 : ℕ) : ℤ) - 1 = format.bottom + k + 1 := by
        push_cast
        ring
      rw [hexponent, zpow_add_one₀ (by norm_num)]
      push_cast
      ring

theorem magnitude_lt_succ (rank : Nat) : format.magnitude rank < format.magnitude (rank + 1) := by
  obtain ⟨k, m, rfl, hm, hk⟩ := format.exists_place rank
  have hnext : k = 0 ∨ format.binade ≤ m + 1 := hk.imp_right (by omega)
  rw [Nat.add_assoc, format.magnitude_of_place hm.le hk, format.magnitude_of_place hm hnext]
  have hunit : (0 : ℚ) < 2 ^ (format.bottom + k) := zpow_pos (by norm_num) _
  push_cast
  linarith

theorem magnitude_strictMono : StrictMono format.magnitude :=
  strictMono_nat_of_lt_succ format.magnitude_lt_succ

@[simp] theorem magnitude_zero : format.magnitude 0 = 0 := by
  have hzero := format.magnitude_of_place (k := 0) (m := 0) (by omega) (.inl rfl)
  simpa using hzero

theorem magnitude_nonneg (rank : Nat) : 0 ≤ format.magnitude rank := by
  rw [← format.magnitude_zero]
  exact format.magnitude_strictMono.monotone (Nat.zero_le rank)

/-- The magnitudes from a binade on are multiples of its unit. -/
theorem exists_multiple {k s : Nat} (hs : k = 0 ∨ (k + 1) * format.binade ≤ s) :
    ∃ j : ℕ, format.magnitude s = j * 2 ^ (format.bottom + k) := by
  obtain ⟨k', m, rfl, hm, hk⟩ := format.exists_place s
  have hle : k ≤ k' := by
    rcases hs with rfl | hs
    · exact Nat.zero_le k'
    · by_contra hlt
      have hmul : (k' + 2) * format.binade ≤ (k + 1) * format.binade :=
        Nat.mul_le_mul_right _ (by omega)
      rw [Nat.add_mul k' 2] at hmul
      omega
  obtain ⟨d, rfl⟩ := Nat.exists_eq_add_of_le hle
  refine ⟨m * 2 ^ d, ?_⟩
  rw [format.magnitude_of_place hm.le hk]
  push_cast
  rw [mul_assoc, ← zpow_natCast (2 : ℚ) d, ← zpow_add₀ (by norm_num)]
  congr 2
  ring

/-! ### The nearest magnitude -/

/-- A rank whose magnitude is nearest to a number. It is even if another magnitude is as near. -/
structure IsNearest (v : ℚ) (rank : Nat) : Prop where
  near : ∀ s, |v - format.magnitude rank| ≤ |v - format.magnitude s|
  even : ∀ s, s ≠ rank → |v - format.magnitude rank| = |v - format.magnitude s| → rank % 2 = 0

variable {format}

/-- A magnitude that the number has passed by another one is not nearest to it. -/
theorem IsNearest.lt_magnitude {v : ℚ} {rank : Nat} (h : format.IsNearest v rank) :
    v < format.magnitude (rank + 1) := by
  by_contra hle
  have hlt := format.magnitude_lt_succ rank
  have hnear := h.near (rank + 1)
  rw [abs_of_nonneg (by linarith), abs_of_nonneg (by linarith)] at hnear
  linarith

/-- The nearest rank exceeds `s` from the number halfway to the next magnitude on, and there only if
`s` is odd. -/
theorem IsNearest.le_iff {v : ℚ} {r : Nat} (h : format.IsNearest v r) (s : Nat) :
    r ≤ s ↔ 2 * v < format.magnitude s + format.magnitude (s + 1) ∨
      2 * v = format.magnitude s + format.magnitude (s + 1) ∧ s % 2 = 0 := by
  have hstep := format.magnitude_lt_succ s
  constructor
  · intro hrs
    have hle := format.magnitude_strictMono.monotone hrs
    have hbelow : v < format.magnitude (s + 1) :=
      h.lt_magnitude.trans_le (format.magnitude_strictMono.monotone (Nat.succ_le_succ hrs))
    have hnear := h.near (s + 1)
    rw [abs_of_neg (sub_neg.2 hbelow)] at hnear
    have hdist := (le_abs_self _).trans hnear
    rcases lt_or_eq_of_le (show 2 * v ≤ format.magnitude s + format.magnitude (s + 1) by linarith)
      with hlt | htie
    · exact .inl hlt
    · obtain rfl : r = s := format.magnitude_strictMono.injective (by linarith)
      refine .inr ⟨htie, h.even (r + 1) (by omega) ?_⟩
      rw [abs_of_neg (sub_neg.2 hbelow), abs_of_nonneg (by linarith)]
      linarith
  · intro hv
    by_contra hlt
    have hle := format.magnitude_strictMono.monotone (show s + 1 ≤ r by omega)
    have hnear := h.near s
    have hpast : format.magnitude s + format.magnitude r ≤ 2 * v := by
      rcases abs_cases (v - format.magnitude s) with ⟨hs, hsign⟩ | ⟨hs, hsign⟩ <;>
        rcases abs_cases (v - format.magnitude r) with ⟨hr, hsign'⟩ | ⟨hr, hsign'⟩ <;> linarith
    rcases hv with hv | ⟨htie, heven⟩
    · linarith
    · -- Of two ranks that are as near, only one is even.
      obtain rfl : r = s + 1 := format.magnitude_strictMono.injective (by linarith)
      have heven' := h.even s (by omega) (by
        rw [abs_of_neg (by linarith), abs_of_nonneg (by linarith)]
        linarith)
      omega

theorem IsNearest.unique {v : ℚ} {r s : Nat} (hr : format.IsNearest v r)
    (hs : format.IsNearest v s) : r = s :=
  le_antisymm ((hr.le_iff s).2 ((hs.le_iff s).1 le_rfl))
    ((hs.le_iff r).2 ((hr.le_iff r).1 le_rfl))

theorem abs_mul_sub {q x u : ℚ} (hu : 0 < u) : |q * u - x * u| = |q - x| * u := by
  rw [← sub_mul, abs_mul, abs_of_pos hu]

/-- A magnitude is a multiple of a binade's unit, or it is below the binade. -/
theorem exists_multiple_or_lt (k s : Nat) :
    (∃ j : ℕ, format.magnitude s = j * 2 ^ (format.bottom + k)) ∨
      (k ≠ 0 ∧ format.magnitude s < format.binade * 2 ^ (format.bottom + k)) := by
  by_cases hs : k = 0 ∨ (k + 1) * format.binade ≤ s
  · exact .inl (format.exists_multiple hs)
  · rw [not_or, not_le] at hs
    refine .inr ⟨hs.1, ?_⟩
    rw [← format.magnitude_of_place (m := format.binade) (by omega) (.inr le_rfl)]
    apply format.magnitude_strictMono
    rw [← Nat.succ_mul]
    exact hs.2

/-- The magnitude nearest to a number on the grid of a binade is the multiple of the unit nearest
to it. -/
theorem isNearest_of_place (hprecision : 2 ≤ format.precision) {q : ℚ} {k m : Nat}
    (hlow : k = 0 ∨ (format.binade : ℚ) ≤ q) (hmLow : k = 0 ∨ format.binade ≤ m)
    (hmHigh : m ≤ 2 * format.binade) (hnear : ∀ j : ℤ, |q - m| ≤ |q - j|)
    (heven : ∀ j : ℤ, j ≠ m → |q - m| = |q - j| → m % 2 = 0) :
    format.IsNearest (q * 2 ^ (format.bottom + k)) (k * format.binade + m) := by
  have hvalue := format.magnitude_of_place hmHigh hmLow
  obtain ⟨u, hu⟩ : ∃ u : ℚ, u = 2 ^ (format.bottom + k) := ⟨_, rfl⟩
  have hunit : 0 < u := hu ▸ zpow_pos (by norm_num) _
  -- A magnitude below the grid is further away than the first one of the grid.
  have hcases : ∀ s, (∃ j : ℕ, format.magnitude s = j * u) ∨
      |q * u - m * u| < |q * u - format.magnitude s| := by
    intro s
    rw [hu]
    refine (exists_multiple_or_lt k s).imp_right fun ⟨hk, hbelow⟩ => ?_
    rw [← hu] at hbelow ⊢
    have hstart : format.binade * u ≤ q * u :=
      mul_le_mul_of_nonneg_right (hlow.resolve_left hk) hunit.le
    calc |q * u - m * u|
        = |q - m| * u := abs_mul_sub hunit
      _ ≤ |q - format.binade| * u :=
        mul_le_mul_of_nonneg_right (by exact_mod_cast hnear format.binade) hunit.le
      _ = q * u - format.binade * u := by rw [← abs_mul_sub hunit, abs_of_nonneg (by linarith)]
      _ < |q * u - format.magnitude s| := by
        rw [abs_of_pos (by linarith)]
        linarith
  rw [← hu] at hvalue ⊢
  constructor
  · intro s
    rw [hvalue]
    rcases hcases s with ⟨j, hj⟩ | hfar
    · rw [hj, abs_mul_sub hunit, abs_mul_sub hunit]
      exact mul_le_mul_of_nonneg_right (by exact_mod_cast hnear j) hunit.le
    · exact hfar.le
  · intro s hs htie
    rw [hvalue] at htie
    have hrank : (k * format.binade + m) % 2 = m % 2 := by
      rw [Nat.add_mod, Nat.mul_mod, binade_even hprecision]
      simp
    rw [hrank]
    rcases hcases s with ⟨j, hj⟩ | hfar
    · rw [hj, abs_mul_sub hunit, abs_mul_sub hunit] at htie
      refine heven j ?_ (by exact_mod_cast mul_right_cancel₀ hunit.ne' htie)
      intro hjm
      apply hs
      apply format.magnitude_strictMono.injective
      rw [hj, hvalue]
      congr 1
      exact_mod_cast hjm
    · exact absurd htie hfar.ne

/-- A quotient is rounded to the nearest magnitude. -/
theorem isNearest_nearestRank (hprecision : 2 ≤ format.precision) (num : Nat) {den : Nat}
    (hden : 0 < den) : format.IsNearest (num / den) (format.nearestRank num den) := by
  rw [nearestRank]
  split
  · rename_i hnum
    rw [hnum, Nat.cast_zero, zero_div]
    refine ⟨fun s => ?_, fun _ _ _ => rfl⟩
    rw [magnitude_zero, sub_self, abs_zero]
    exact abs_nonneg _
  · rename_i hnum
    obtain ⟨hlow, hhigh⟩ := floorLog2_bounds (Nat.pos_of_ne_zero hnum) hden
    obtain ⟨f, hf⟩ : ∃ f, f = floorLog2 num den := ⟨_, rfl⟩
    obtain ⟨e, he⟩ : ∃ e, e = max format.bottom (f + 1 - format.precision) := ⟨_, rfl⟩
    rw [← hf] at hlow hhigh
    simp only [← hf, ← he]
    have hunit : (0 : ℚ) < 2 ^ e := zpow_pos (by norm_num) _
    have hbinade : (format.binade : ℚ) = 2 ^ ((format.precision : ℤ) - 1) := by
      rw [binade, Nat.shiftLeft_eq, Nat.one_mul, Nat.cast_pow, ← zpow_natCast]
      congr 1
      omega
    have hexponent : e = format.bottom + (e - format.bottom).toNat := by omega
    have hgrid : (num / den : ℚ) = num / den / 2 ^ e * 2 ^ e := by field_simp
    rw [hgrid, ← shifted_quotient]
    conv => enter [2, 2, 2]; rw [hexponent]
    have hpositive : 0 < den <<< e.toNat := by
      rw [Nat.shiftLeft_eq]
      positivity
    have hstart : (e - format.bottom).toNat = 0 ∨ (format.binade : ℚ) ≤
        (num <<< (-e).toNat : ℕ) / (den <<< e.toNat : ℕ) := by
      rw [shifted_quotient, le_div_iff₀ hunit, hbinade, ← zpow_add₀ (by norm_num)]
      by_cases hk : (e - format.bottom).toNat = 0
      · exact .inl hk
      · refine .inr (le_trans (le_of_eq ?_) hlow)
        congr 1
        omega
    have hend : ((num <<< (-e).toNat : ℕ) / (den <<< e.toNat : ℕ) : ℚ) ≤
        (2 * format.binade : ℕ) := by
      rw [shifted_quotient, div_le_iff₀ hunit]
      push_cast
      rw [hbinade, ← zpow_one_add₀ (by norm_num), ← zpow_add₀ (by norm_num)]
      refine (lt_of_lt_of_le hhigh (zpow_le_zpow_right₀ (by norm_num) ?_)).le
      omega
    exact isNearest_of_place hprecision hstart
      (hstart.imp_right (le_roundHalfEven _ hpositive))
      (roundHalfEven_le _ hpositive hend) (roundHalfEven_nearest _ hpositive)
      (fun _ => roundHalfEven_even _ hpositive)

theorem exists_isNearest (hprecision : 2 ≤ format.precision) {v : ℚ} (hv : 0 ≤ v) :
    ∃ rank, format.IsNearest v rank := by
  have hnearest := isNearest_nearestRank hprecision v.num.natAbs v.pos
  have hquotient : (v.num.natAbs / v.den : ℚ) = v := by
    rw [Nat.cast_natAbs, abs_of_nonneg (Rat.num_nonneg.2 hv), Rat.num_div_den]
  exact ⟨_, hquotient ▸ hnearest⟩

end Magnitude

end SeriesSql.BinaryFormat
