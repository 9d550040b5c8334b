import Mathlib
import SeriesSql.Proofs.Number.Integer

/-!
# The texts of wide integers

A wide integer is written with the digits of a radix, in lower or upper case, after an optional
sign. Underscores are passed over wherever they stand, as long as a digit comes first.
-/

namespace SeriesSql.Integer

def IsDigit (radix : Nat) (c : Char) (d : Nat) : Prop :=
  d < radix ∧ (c = Nat.digitChar d ∨ c = (Nat.digitChar d).toUpper)

def DigitsDenote (radix : Nat) (cs : List Char) (n : Nat) : Prop :=
  cs ≠ [] ∧ ∃ digits, List.Forall₂ (IsDigit radix) cs digits ∧ n = ofDigits radix digits

/-- Digits of a radix denote a number, and underscores may stand anywhere but first. -/
def SpacedDenote (radix : Nat) (cs : List Char) (n : Nat) : Prop :=
  cs.head? ≠ some '_' ∧ DigitsDenote radix (cs.filter (· != '_')) n

/-- A text denotes an integer if it denotes a number after an optional sign. -/
inductive SignedDenote (magnitude : List Char → Nat → Prop) : List Char → ℤ → Prop where
  | plain {cs : List Char} {n : Nat} : magnitude cs n → SignedDenote magnitude cs n
  | plus {cs : List Char} {n : Nat} : magnitude cs n → SignedDenote magnitude ('+' :: cs) n
  | minus {cs : List Char} {n : Nat} : magnitude cs n → SignedDenote magnitude ('-' :: cs) (-n)

/-! ### Digits -/

section Digits

variable {radix : Nat} (hmax : radix ≤ 16)

theorem exists_digit_of_code {d n : Nat} (hn : n < 0x80) (hd : d < 16)
    (h : digitValue? (Char.ofNat n) = some d) :
    Char.ofNat n = Nat.digitChar d ∨ Char.ofNat n = (Nat.digitChar d).toUpper := by
  have hcodes : ∀ n < 0x80, ∀ d ∈ digitValue? (Char.ofNat n), d < 16 →
      Char.ofNat n = Nat.digitChar d ∨ Char.ofNat n = (Nat.digitChar d).toUpper := by
    decide
  exact hcodes n hn d h hd

theorem toNat_lt_of_digitValue? {c : Char} {d : Nat} (h : digitValue? c = some d) :
    c.toNat < 0x80 := by
  simp only [digitValue?] at h
  by_contra hcode
  rw [if_neg (by omega), if_neg (by omega), if_neg (by omega)] at h
  cases h

include hmax

theorem digitValue?_filter_eq_some_iff {c : Char} {d : Nat} :
    (digitValue? c).filter (· < radix) = some d ↔ IsDigit radix c d := by
  have hupper : ∀ d < 16, digitValue? (Nat.digitChar d).toUpper = some d := by decide
  rw [Option.filter_eq_some_iff, decide_eq_true_eq, IsDigit, and_comm]
  refine and_congr_right fun hd => ?_
  constructor
  · intro h
    have hcode := exists_digit_of_code (toNat_lt_of_digitValue? h) (hd.trans_le hmax)
    rw [c.ofNat_toNat] at hcode
    exact hcode h
  · rintro (rfl | rfl)
    · exact digitValue?_digitChar d (hd.trans_le hmax)
    · exact hupper d (hd.trans_le hmax)

theorem mapM_digitValue?_eq_some_iff {cs : List Char} {digits : List Nat} :
    cs.mapM (fun c => (digitValue? c).filter (· < radix)) = some digits ↔
      List.Forall₂ (IsDigit radix) cs digits := by
  induction cs generalizing digits with
  | nil => simp [eq_comm]
  | cons c cs ih =>
    simp only [List.mapM_cons, Option.bind_eq_bind, Option.bind_eq_some_iff, Option.pure_def,
      Option.some_inj, digitValue?_filter_eq_some_iff hmax, ih, List.forall₂_cons_left_iff]
    constructor
    · rintro ⟨d, hd, rest, hrest, rfl⟩
      exact ⟨d, rest, hd, hrest, rfl⟩
    · rintro ⟨d, rest, hd, hrest, rfl⟩
      exact ⟨d, hd, rest, hrest, rfl⟩

theorem spacedDigits?_eq_some_iff {cs : List Char} {n : Nat} :
    spacedDigits? radix cs = some n ↔ SpacedDenote radix cs n := by
  rw [spacedDigits?, SpacedDenote, DigitsDenote]
  cases cs with
  | nil => simp
  | cons c cs =>
    by_cases hc : c = '_'
    · simp [hc]
    · have hkept : (c :: cs).filter (· != '_') ≠ [] := by simp [hc]
      simp only [List.isEmpty_cons, List.head?_cons, Bool.false_or, beq_iff_eq, Option.some_inj,
        hc, if_false, Option.map_eq_some_iff, mapM_digitValue?_eq_some_iff hmax, ne_eq, hkept,
        not_false_eq_true, true_and, @eq_comm _ n]

theorem not_isDigit {c : Char} (hc : digitValue? c = none) (d : Nat) : ¬ IsDigit radix c d := by
  rw [← digitValue?_filter_eq_some_iff hmax, hc]
  nofun

omit hmax

theorem DigitsDenote.exists_digit {cs : List Char} {n : Nat} (h : DigitsDenote radix cs n) :
    ∀ c ∈ cs, ∃ d, IsDigit radix c d := by
  obtain ⟨-, digits, hdigits, -⟩ := h
  have hmem := hdigits.imp fun c d hd => And.intro (Exists.intro d hd) hd
  exact ((List.forall₂_and_left _ _).1 hmem).1

include hmax

/-- Only an underscore stands among spaced digits without being one. -/
theorem SpacedDenote.not_mem {cs : List Char} {n : Nat} (h : SpacedDenote radix cs n) {c : Char}
    (hc : digitValue? c = none) (hspace : c ≠ '_') : c ∉ cs := by
  intro hmem
  obtain ⟨d, hd⟩ := h.2.exists_digit c (List.mem_filter.2 ⟨hmem, by simpa using hspace⟩)
  exact not_isDigit hmax hc d hd

theorem map_spacedDigits?_eq_some_iff {cs : List Char} {f : Nat → ℤ} {n : ℤ} :
    (spacedDigits? radix cs).map f = some n ↔ ∃ m, SpacedDenote radix cs m ∧ f m = n := by
  simp only [Option.map_eq_some_iff, spacedDigits?_eq_some_iff hmax]

omit hmax in
theorem wide?_minus (cs : List Char) :
    wide? radix ('-' :: cs) = (spacedDigits? radix cs).map fun n : Nat => -(n : ℤ) := by
  rw [wide?]
  cases spacedDigits? radix cs <;> rfl

theorem wide?_eq_some_iff {cs : List Char} {n : ℤ} :
    wide? radix cs = some n ↔ SignedDenote (SpacedDenote radix) cs n := by
  constructor
  · intro h
    rw [wide?.eq_def] at h
    split at h
    · rw [← wide?.eq_1, wide?_minus] at h
      obtain ⟨m, hm, rfl⟩ := (map_spacedDigits?_eq_some_iff hmax).1 h
      exact .minus hm
    · obtain ⟨m, hm, rfl⟩ := (map_spacedDigits?_eq_some_iff hmax).1 h
      exact .plus hm
    · obtain ⟨m, hm, rfl⟩ := (map_spacedDigits?_eq_some_iff hmax).1 h
      exact .plain hm
  · intro h
    cases h with
    | plain hcs =>
      rw [wide?]
      · exact (map_spacedDigits?_eq_some_iff hmax).2 ⟨_, hcs, rfl⟩
      · rintro ds rfl
        exact hcs.not_mem hmax rfl (by decide) List.mem_cons_self
      · rintro ds rfl
        exact hcs.not_mem hmax rfl (by decide) List.mem_cons_self
    | plus hcs => exact (map_spacedDigits?_eq_some_iff hmax).2 ⟨_, hcs, rfl⟩
    | minus hcs =>
      rw [wide?_minus]
      exact (map_spacedDigits?_eq_some_iff hmax).2 ⟨_, hcs, rfl⟩

end Digits

/-! ### Plain texts -/

theorem spacedDenote_and_not_mem_iff {radix : Nat} (hmax : radix ≤ 16) {cs : List Char} {n : Nat} :
    SpacedDenote radix cs n ∧ '_' ∉ cs ↔ DigitsDenote radix cs n := by
  have hkept : '_' ∉ cs → cs.filter (· != '_') = cs := by
    intro hspace
    rw [List.filter_eq_self]
    rintro c hc
    rw [bne_iff_ne]
    rintro rfl
    exact hspace hc
  constructor
  · rintro ⟨h, hspace⟩
    exact hkept hspace ▸ h.2
  · intro h
    have hspace : '_' ∉ cs := by
      intro hmem
      obtain ⟨d, hd⟩ := h.exists_digit '_' hmem
      exact not_isDigit hmax rfl d hd
    exact ⟨⟨fun hhead => hspace (List.mem_of_mem_head? hhead), (hkept hspace).symm ▸ h⟩, hspace⟩

theorem isDigit_ten_iff {c : Char} {d : Nat} :
    IsDigit 10 c d ↔ c.isDigit ∧ c.toNat - 0x30 = d := by
  have hrange : c.isDigit ↔ 0x30 ≤ c.toNat ∧ c.toNat ≤ 0x39 := by
    simp [Char.isDigit, UInt32.le_iff_toNat_le]
  rw [← digitValue?_filter_eq_some_iff (by decide), Option.filter_eq_some_iff, decide_eq_true_eq,
    hrange]
  simp only [digitValue?]
  by_cases hdigit : 0x30 ≤ c.toNat ∧ c.toNat ≤ 0x39
  · rw [if_pos hdigit, Option.some_inj]
    omega
  · -- A letter stands for ten or more.
    rw [if_neg hdigit]
    split
    · rw [Option.some_inj]
      omega
    · split
      · rw [Option.some_inj]
        omega
      · exact iff_of_false (fun h => nomatch h.1) fun h => hdigit h.1

theorem digitsDenote_ten_iff {cs : List Char} {n : Nat} :
    DigitsDenote 10 cs n ↔ Numeral.Digits cs ∧ n = ofDecimal cs := by
  have hdigits : ∀ digits, List.Forall₂ (IsDigit 10) cs digits ↔
      (∀ c ∈ cs, c.isDigit) ∧ digits = cs.map fun c => c.toNat - 0x30 := by
    intro digits
    rw [@eq_comm _ digits, ← List.forall₂_eq_eq_eq, List.forall₂_map_left_iff,
      ← List.forall₂_and_left]
    exact ⟨fun h => h.imp fun _ _ => isDigit_ten_iff.1, fun h => h.imp fun _ _ => isDigit_ten_iff.2⟩
  simp only [DigitsDenote, hdigits, Numeral.Digits, ofDecimal, and_assoc]
  constructor
  · rintro ⟨hne, _, hall, rfl, rfl⟩
    exact ⟨hne, hall, rfl⟩
  · rintro ⟨hne, hall, rfl⟩
    exact ⟨hne, _, hall, rfl, rfl⟩

theorem signedDenote_ten_iff {cs : List Char} {n : ℤ} :
    SignedDenote (DigitsDenote 10) cs n ↔ Denotes cs n := by
  constructor
  · intro h
    cases h with
    | plain hcs =>
      obtain ⟨hds, rfl⟩ := digitsDenote_ten_iff.1 hcs
      exact .plain hds
    | plus hcs =>
      obtain ⟨hds, rfl⟩ := digitsDenote_ten_iff.1 hcs
      exact .plus hds
    | minus hcs =>
      obtain ⟨hds, rfl⟩ := digitsDenote_ten_iff.1 hcs
      exact .minus hds
  · intro h
    cases h with
    | plain hds => exact .plain (digitsDenote_ten_iff.2 ⟨hds, rfl⟩)
    | plus hds => exact .plus (digitsDenote_ten_iff.2 ⟨hds, rfl⟩)
    | minus hds => exact .minus (digitsDenote_ten_iff.2 ⟨hds, rfl⟩)

/-- The texts that denote a wide integer. A prefix makes the digits hexadecimal. -/
inductive WideText : List Char → ℤ → Prop where
  | decimal {cs : List Char} {n : ℤ} : SignedDenote (SpacedDenote 10) cs n → WideText cs n
  | hex {x : Char} {cs : List Char} {n : ℤ} :
    x = 'x' ∨ x = 'X' → SignedDenote (SpacedDenote 16) cs n → WideText ('0' :: x :: cs) n

/-- The texts of wide integers in plain form: decimal digits with an optional sign, or hexadecimal
digits after the prefix. -/
inductive PlainWideText : List Char → ℤ → Prop where
  | decimal {cs : List Char} {n : ℤ} : Denotes cs n → PlainWideText cs n
  | hex {x : Char} {cs : List Char} {n : Nat} :
    x = 'x' ∨ x = 'X' → DigitsDenote 16 cs n → PlainWideText ('0' :: x :: cs) n

/-- The characters that are passed over or taken for a sign. -/
def marks : List Char :=
  ['_', '+', '-']

theorem DigitsDenote.not_mark {radix : Nat} (hmax : radix ≤ 16) {cs : List Char} {n : Nat}
    (h : DigitsDenote radix cs n) : ∀ c ∈ cs, c ∉ marks := by
  have hnone : ∀ c ∈ marks, digitValue? c = none := by
    simp only [marks, List.forall_mem_cons]
    exact ⟨rfl, rfl, rfl, nofun⟩
  intro c hc hmark
  obtain ⟨d, hd⟩ := h.exists_digit c hc
  exact not_isDigit hmax (hnone c hmark) d hd

theorem spacedDenote_of_digitsDenote {radix : Nat} (hmax : radix ≤ 16) {cs : List Char} {n : Nat}
    (h : DigitsDenote radix cs n) : SpacedDenote radix cs n :=
  ((spacedDenote_and_not_mem_iff hmax).2 h).1

/-- Digits without underscores are the spaced digits in which no mark but a sign in front stands. -/
theorem signedDenote_digits_iff {radix : Nat} (hmax : radix ≤ 16) {cs : List Char} {n : ℤ} :
    SignedDenote (DigitsDenote radix) cs n ↔
      SignedDenote (SpacedDenote radix) cs n ∧ ∀ c ∈ cs.tail, c ∉ marks := by
  have hspace : '_' ∈ marks := by decide
  constructor
  · intro h
    cases h with
    | plain hds =>
      exact ⟨.plain (spacedDenote_of_digitsDenote hmax hds),
        fun c hc => hds.not_mark hmax c (List.mem_of_mem_tail hc)⟩
    | plus hds => exact ⟨.plus (spacedDenote_of_digitsDenote hmax hds), hds.not_mark hmax⟩
    | minus hds => exact ⟨.minus (spacedDenote_of_digitsDenote hmax hds), hds.not_mark hmax⟩
  · rintro ⟨h, hplain⟩
    cases h with
    | plain hds =>
      refine .plain ((spacedDenote_and_not_mem_iff hmax).1 ⟨hds, fun hmem => ?_⟩)
      cases cs with
      | nil => cases hmem
      | cons c rest =>
        rcases List.mem_cons.1 hmem with rfl | hmem
        · exact hds.1 rfl
        · exact hplain '_' hmem hspace
    | plus hds =>
      exact .plus ((spacedDenote_and_not_mem_iff hmax).1 ⟨hds, fun h => hplain '_' h hspace⟩)
    | minus hds =>
      exact .minus ((spacedDenote_and_not_mem_iff hmax).1 ⟨hds, fun h => hplain '_' h hspace⟩)

/-- Of the texts of wide integers those in plain form are the ones in which no mark but a sign in
front stands. -/
theorem plainWideText_iff {cs : List Char} {n : ℤ} :
    PlainWideText cs n ↔ WideText cs n ∧ ∀ c ∈ cs.tail, c ∉ marks := by
  constructor
  · intro h
    cases h with
    | decimal hcs =>
      obtain ⟨hspaced, hplain⟩ :=
        (signedDenote_digits_iff (by decide)).1 (signedDenote_ten_iff.2 hcs)
      exact ⟨.decimal hspaced, hplain⟩
    | hex hx hds =>
      refine ⟨.hex hx (.plain (spacedDenote_of_digitsDenote le_rfl hds)), ?_⟩
      rw [List.tail_cons, List.forall_mem_cons]
      refine ⟨?_, hds.not_mark le_rfl⟩
      rcases hx with rfl | rfl <;> decide
  · rintro ⟨h, hplain⟩
    cases h with
    | decimal hcs =>
      exact .decimal (signedDenote_ten_iff.1 ((signedDenote_digits_iff (by decide)).2 ⟨hcs, hplain⟩))
    | hex hx hcs =>
      rw [List.tail_cons, List.forall_mem_cons] at hplain
      have hdigits := (signedDenote_digits_iff le_rfl).2
        ⟨hcs, fun c hc => hplain.2 c (List.mem_of_mem_tail hc)⟩
      cases hdigits with
      | plain hds => exact .hex hx hds
      | plus hds => exact absurd (show '+' ∈ marks by decide) (hplain.2 '+' List.mem_cons_self)
      | minus hds => exact absurd (show '-' ∈ marks by decide) (hplain.2 '-' List.mem_cons_self)

/-- Only digits, underscores and signs stand in the text of a wide integer. -/
theorem SignedDenote.mem {cs : List Char} {n : ℤ} (h : SignedDenote (SpacedDenote 10) cs n)
    {c : Char} (hc : c ∈ cs) : c.isDigit ∨ c ∈ marks := by
  have hspaced : ∀ {ds : List Char} {m : Nat}, SpacedDenote 10 ds m → c ∈ ds →
      c.isDigit ∨ c ∈ marks := by
    intro ds m hds hmem
    by_cases hspace : c = '_'
    · exact .inr (hspace ▸ by decide)
    · obtain ⟨d, hd⟩ := hds.2.exists_digit c (List.mem_filter.2 ⟨hmem, by simpa using hspace⟩)
      exact .inl (isDigit_ten_iff.1 hd).1
  cases h with
  | plain hds => exact hspaced hds hc
  | plus hds =>
    rcases List.mem_cons.1 hc with rfl | hc
    · exact .inr (by decide)
    · exact hspaced hds hc
  | minus hds =>
    rcases List.mem_cons.1 hc with rfl | hc
    · exact .inr (by decide)
    · exact hspaced hds hc

theorem Denotes.mem {cs : List Char} {n : ℤ} (h : Denotes cs n) {c : Char} (hc : c ∈ cs) :
    c.isDigit ∨ c ∈ marks :=
  ((signedDenote_digits_iff (by decide)).1 (signedDenote_ten_iff.2 h)).1.mem hc

end SeriesSql.Integer
