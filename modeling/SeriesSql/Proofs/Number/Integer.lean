import Mathlib
import SeriesSql.Proofs.Number.Numeral

/-!
# The digits of an integer are read back

The digits of a number in a radix up to 16 denote the number, in every reading that takes them.
-/

namespace SeriesSql.Integer

theorem digitValue?_digitChar : ∀ d < 16, digitValue? (Nat.digitChar d) = some d := by
  decide

theorem ofDigits_append_singleton (radix : Nat) (digits : List Nat) (d : Nat) :
    ofDigits radix (digits ++ [d]) = ofDigits radix digits * radix + d := by
  simp [ofDigits]

/-- The values of the digits of a number, the most significant first. -/
theorem exists_values_toDigits {radix : Nat} (hradix : 1 < radix) (hmax : radix ≤ 16) (n : Nat) :
    ∃ digits, ofDigits radix digits = n ∧
      (Nat.toDigits radix n).mapM (fun c => (digitValue? c).filter (· < radix)) = some digits := by
  induction n using Nat.strongRecOn with
  | ind n ih =>
    have hvalue : ∀ d < radix, (digitValue? (Nat.digitChar d)).filter (· < radix) = some d := by
      intro d hd
      rw [digitValue?_digitChar d (by omega)]
      simp [hd]
    by_cases hn : n < radix
    · refine ⟨[n], by simp [ofDigits], ?_⟩
      rw [Nat.toDigits_of_lt_base hn]
      simp [hvalue n hn]
    · have hlt : n / radix < n := Nat.div_lt_self (by omega) hradix
      obtain ⟨digits, hdigits, hread⟩ := ih (n / radix) hlt
      refine ⟨digits ++ [n % radix], ?_, ?_⟩
      · rw [ofDigits_append_singleton, hdigits, Nat.div_add_mod']
      · rw [Nat.toDigits_of_base_le hradix (by omega), List.mapM_append, hread]
        simp [hvalue (n % radix) (Nat.mod_lt _ (by omega))]

theorem not_mem_toDigits_of_digitValue?_eq_none {radix : Nat} (hradix : 1 < radix)
    (hmax : radix ≤ 16) {c : Char} (hc : digitValue? c = none) (n : Nat) :
    c ∉ Nat.toDigits radix n := by
  intro hmem
  obtain ⟨digits, -, hread⟩ := exists_values_toDigits hradix hmax n
  obtain ⟨before, after, heq⟩ := List.append_of_mem hmem
  rw [heq, List.mapM_append, List.mapM_cons, hc] at hread
  simp at hread

theorem spacedDigits?_toDigits {radix : Nat} (hradix : 1 < radix) (hmax : radix ≤ 16) (n : Nat) :
    spacedDigits? radix (Nat.toDigits radix n) = some n := by
  obtain ⟨digits, hdigits, hread⟩ := exists_values_toDigits hradix hmax n
  have hspace : '_' ∉ Nat.toDigits radix n :=
    not_mem_toDigits_of_digitValue?_eq_none hradix hmax rfl n
  have hfirst : (Nat.toDigits radix n).head? ≠ some '_' :=
    fun h => hspace (List.mem_of_mem_head? h)
  have hfilter : (Nat.toDigits radix n).filter (· != '_') = Nat.toDigits radix n := by
    rw [List.filter_eq_self]
    intro c hc
    rw [bne_iff_ne]
    rintro rfl
    exact hspace hc
  rw [spacedDigits?, hfilter, hread]
  simp [hdigits, hfirst]

theorem wide?_toDigits {radix : Nat} (hradix : 1 < radix) (hmax : radix ≤ 16) (n : Nat) :
    wide? radix (Nat.toDigits radix n) = some (n : Int) := by
  have hminus : '-' ∉ Nat.toDigits radix n :=
    not_mem_toDigits_of_digitValue?_eq_none hradix hmax rfl n
  have hplus : '+' ∉ Nat.toDigits radix n :=
    not_mem_toDigits_of_digitValue?_eq_none hradix hmax rfl n
  have hread := spacedDigits?_toDigits hradix hmax n
  generalize Nat.toDigits radix n = cs at hminus hplus hread
  rw [wide?]
  · rw [hread]
    rfl
  · rintro cs rfl
    exact hminus List.mem_cons_self
  · rintro cs rfl
    exact hplus List.mem_cons_self

/-- An integer is read back from its decimal digits, whatever its size. -/
theorem wide?_toString (n : Int) : wide? 10 (toString n).toList = some n := by
  rw [Numeral.toList_intToString]
  split
  · rw [wide?, spacedDigits?_toDigits (by decide) (by decide)]
    change some (-(n.natAbs : Int)) = some n
    congr 1
    omega
  · rw [wide?_toDigits (by decide) (by decide)]
    congr 1
    omega

theorem wide?_hex (n : Nat) : wide? 16 (hex n) = some (n : Int) :=
  wide?_toDigits (by decide) (by decide) n

/-! ### Plain readings -/

theorem ofDecimal_eq (cs : List Char) : ofDecimal cs = Nat.ofDigitChars 10 cs 0 := by
  rw [ofDecimal, ofDigits, List.foldl_map, Nat.ofDigitChars_eq_foldl]
  simp only [Nat.mul_comm]
  rfl

theorem ofDecimal_toDigits (n : Nat) : ofDecimal (Nat.toDigits 10 n) = n := by
  rw [ofDecimal_eq, Nat.ofDigitChars_ten_toDigits]

theorem digits?_toDigits (n : Nat) : digits? (Nat.toDigits 10 n) = some n := by
  obtain ⟨hne, hdigits⟩ := Numeral.digits_toDigits n
  rw [digits?, ofDecimal_toDigits]
  simpa [hne] using hdigits

theorem plain?_toString (n : Int) : plain? (toString n).toList = some n := by
  rw [Numeral.toList_intToString]
  split
  · rw [plain?, digits?_toDigits]
    change some (-(n.natAbs : Int)) = some n
    congr 1
    omega
  · have hread := digits?_toDigits n.natAbs
    obtain ⟨hne, hdigits⟩ := Numeral.digits_toDigits n.natAbs
    generalize Nat.toDigits 10 n.natAbs = cs at hread hdigits
    rw [plain?]
    · rw [hread, Option.map_some, Int.ofNat_eq_natCast]
      congr 1
      omega
    · rintro cs rfl
      exact absurd (hdigits '-' List.mem_cons_self) (by decide)
    · rintro cs rfl
      exact absurd (hdigits '+' List.mem_cons_self) (by decide)

theorem within?_toString {lo hi n : Int} (hlo : lo ≤ n) (hhi : n ≤ hi) :
    within? lo hi (toString n).toList = some n := by
  rw [within?, plain?_toString]
  simp [hlo, hhi]

/-- Only zero starts with the digit zero. -/
theorem head?_toDigits {n : Nat} (hn : 0 < n) : (Nat.toDigits 10 n).head? ≠ some '0' := by
  induction n using Nat.strongRecOn with
  | ind n ih =>
    by_cases hlt : n < 10
    · rw [Nat.toDigits_of_lt_base hlt]
      interval_cases n <;> decide
    · rw [Nat.toDigits_of_base_le (by decide) (by omega), List.head?_append_of_ne_nil _
        Nat.toDigits_ne_nil]
      exact ih (n / 10) (by omega) (by omega)

/-! ### The integer that a text denotes -/

/-- A run of digits with an optional sign denotes an integer. -/
inductive Denotes : List Char → ℤ → Prop where
  | plain {ds : List Char} : Numeral.Digits ds → Denotes ds (ofDecimal ds)
  | plus {ds : List Char} : Numeral.Digits ds → Denotes ('+' :: ds) (ofDecimal ds)
  | minus {ds : List Char} : Numeral.Digits ds → Denotes ('-' :: ds) (-ofDecimal ds)

theorem digits?_eq_some_iff {cs : List Char} {n : Nat} :
    digits? cs = some n ↔ Numeral.Digits cs ∧ n = ofDecimal cs := by
  rw [digits?, Numeral.Digits]
  split
  · rename_i h
    rw [Bool.or_eq_true, List.isEmpty_iff, Bool.not_eq_true', List.all_eq_false] at h
    refine ⟨nofun, fun ⟨⟨hne, hdigits⟩, _⟩ => ?_⟩
    obtain ⟨c, hc, hnot⟩ := h.resolve_left hne
    exact absurd (hdigits c hc) hnot
  · rename_i h
    rw [Bool.or_eq_true, not_or, List.isEmpty_iff, Bool.not_eq_true', Bool.not_eq_false,
      List.all_eq_true] at h
    rw [Option.some_inj, and_iff_right h, eq_comm]

theorem not_digits_cons {c : Char} (hc : c.isDigit = false) (cs : List Char) :
    ¬ Numeral.Digits (c :: cs) := by
  intro h
  have hdigit := h.2 c List.mem_cons_self
  rw [hc] at hdigit
  cases hdigit

theorem plain?_minus_eq_some_iff {ds : List Char} {n : ℤ} :
    plain? ('-' :: ds) = some n ↔ Numeral.Digits ds ∧ n = -ofDecimal ds := by
  have hmap : plain? ('-' :: ds) = (digits? ds).map fun n : Nat => -(n : ℤ) := by
    rw [plain?]
    cases digits? ds <;> rfl
  rw [hmap, Option.map_eq_some_iff]
  constructor
  · rintro ⟨m, hm, rfl⟩
    obtain ⟨hds, rfl⟩ := digits?_eq_some_iff.1 hm
    exact ⟨hds, rfl⟩
  · rintro ⟨hds, rfl⟩
    exact ⟨_, digits?_eq_some_iff.2 ⟨hds, rfl⟩, rfl⟩

theorem map_digits?_eq_some_iff {ds : List Char} {n : ℤ} :
    (digits? ds).map Int.ofNat = some n ↔ Numeral.Digits ds ∧ n = ofDecimal ds := by
  rw [Option.map_eq_some_iff]
  constructor
  · rintro ⟨m, hm, rfl⟩
    obtain ⟨hds, rfl⟩ := digits?_eq_some_iff.1 hm
    exact ⟨hds, rfl⟩
  · rintro ⟨hds, rfl⟩
    exact ⟨_, digits?_eq_some_iff.2 ⟨hds, rfl⟩, rfl⟩

theorem plain?_eq_some_iff {cs : List Char} {n : ℤ} : plain? cs = some n ↔ Denotes cs n := by
  constructor
  · intro h
    rw [plain?.eq_def] at h
    split at h
    · obtain ⟨hds, rfl⟩ := plain?_minus_eq_some_iff.1 h
      exact .minus hds
    · obtain ⟨hds, rfl⟩ := map_digits?_eq_some_iff.1 h
      exact .plus hds
    · obtain ⟨hds, rfl⟩ := map_digits?_eq_some_iff.1 h
      exact .plain hds
  · intro h
    cases h with
    | plain hds =>
      rw [plain?]
      · exact map_digits?_eq_some_iff.2 ⟨hds, rfl⟩
      · rintro ds rfl
        exact not_digits_cons rfl ds hds
      · rintro ds rfl
        exact not_digits_cons rfl ds hds
    | plus hds => exact map_digits?_eq_some_iff.2 ⟨hds, rfl⟩
    | minus hds => exact plain?_minus_eq_some_iff.2 ⟨hds, rfl⟩

theorem Denotes.unique {cs : List Char} {m n : ℤ} (hm : Denotes cs m) (hn : Denotes cs n) :
    m = n := by
  rw [← plain?_eq_some_iff] at hm hn
  exact Option.some.inj (hm.symm.trans hn)

theorem ofDecimal_append (cs ds : List Char) :
    ofDecimal (cs ++ ds) = ofDecimal cs * 10 ^ ds.length + ofDecimal ds := by
  simp only [ofDecimal_eq, Nat.ofDigitChars_append]
  rw [Nat.ofDigitChars_eq_ofDigitChars_zero, Nat.mul_comm]

end SeriesSql.Integer
