import Mathlib
import SeriesSql.Proofs.Number.Integer
import SeriesSql.Proofs.Text.Blank
import SeriesSql.Proofs.Time.Timestamp

/-!
# Timestamps are read back from their text

A number that fills its width with zeros is read back by both readers of numbers. The text of an
instant in a year of four digits is a row of such numbers, and so the strict reader takes it with
the letter `Z` and only the plain reader takes it without. Both see the instant up to the fraction
digits that the text has. A text without a colon is read by neither.
-/

namespace SeriesSql.Timestamp

/-! ### Padded numbers -/

section Padded

variable {width n : Nat}

theorem isDigit_of_mem_padded {c : Char} (hc : c ∈ padded width n) : c.isDigit :=
  Numeral.isDigit_of_mem_padded hc

theorem ofDecimal_padded (width n : Nat) : Integer.ofDecimal (padded width n) = n := by
  rw [padded, Integer.ofDecimal_eq, Nat.ofDigitChars_append, Nat.ofDigitChars_replicate_zero,
    Nat.mul_zero, Nat.ofDigitChars_ten_toDigits]

variable (hwidth : 0 < width) (hn : n < 10 ^ width)

include hwidth hn

theorem length_padded : (padded width n).length = width := by
  have hle := (Nat.length_toDigits_le_iff (by decide) hwidth).2 hn
  rw [padded, List.length_append, List.length_replicate]
  omega

theorem exists_cons_padded : ∃ c cs, padded width n = c :: cs ∧ c.isDigit := by
  have hlength := length_padded hwidth hn
  cases hcs : padded width n with
  | nil =>
    rw [hcs] at hlength
    simp at hlength
    omega
  | cons c cs => exact ⟨c, cs, rfl, isDigit_of_mem_padded (hcs ▸ List.mem_cons_self)⟩

theorem fixed?_padded (rest : List Char) :
    fixed? width (padded width n ++ rest) = some (n, rest) := by
  have hlength := length_padded hwidth hn
  have hdigits : (padded width n).all Char.isDigit :=
    List.all_eq_true.2 fun c hc => isDigit_of_mem_padded hc
  simp only [fixed?, List.take_left' hlength, List.drop_left' hlength, ofDecimal_padded]
  rw [if_pos ⟨hlength, hdigits⟩]

theorem upTo?_padded (rest : List Char) :
    upTo? width (padded width n ++ rest) = some (n, rest) := by
  obtain ⟨c, cs, hcs, -⟩ := exists_cons_padded hwidth hn
  have hdigits : (padded width n).takeWhile Char.isDigit = padded width n :=
    List.takeWhile_eq_self_iff.2 fun c hc => isDigit_of_mem_padded hc
  have hvalue := ofDecimal_padded width n
  rw [upTo?, List.take_left' (length_padded hwidth hn), hdigits]
  rw [hcs] at hvalue ⊢
  simp only [hvalue, List.drop_left]

theorem skipBlank_padded (rest : List Char) :
    Text.skipBlank (padded width n ++ rest) = padded width n ++ rest := by
  obtain ⟨c, cs, hcs, hc⟩ := exists_cons_padded hwidth hn
  rw [hcs, List.cons_append, Text.skipBlank_cons (Text.isBlank_of_isDigit hc)]

end Padded

theorem spaced?_padded {n : Nat} (hn : n < 10 ^ 2) (rest : List Char) :
    spaced? (padded 2 n ++ rest) = some (n, rest) := by
  rw [spaced?, skipBlank_padded (by decide) hn, upTo?_padded (by decide) hn]

theorem year?_padded {n : Nat} (hn : n < 10 ^ 4) (rest : List Char) :
    year? (padded 4 n ++ rest) = some ((n : Int), rest) := by
  have hread := upTo?_padded (by decide) hn rest
  have hblank := skipBlank_padded (by decide) hn rest
  obtain ⟨c, cs, hcs, hc⟩ := exists_cons_padded (by decide) hn
  rw [hcs, List.cons_append] at hread hblank ⊢
  rw [year?, hblank]
  split
  · rename_i heq
    cases heq
    exact absurd hc (by decide)
  · rename_i heq
    cases heq
    exact absurd hc (by decide)
  · rw [hread]
    rfl

theorem oneOf?_cons (allowed : List Char) (c : Char) (hc : c ∈ allowed) (rest : List Char) :
    oneOf? allowed (c :: rest) = some (c, rest) := by
  rw [oneOf?, if_pos hc]

/-! ### Fractions -/

theorem fraction?_fractionChars {places nanos : Nat} (hplaces : places ≤ 9)
    (hnanos : nanos < nanosPerSecond) {rest : List Char} (hrest : Numeral.Ends rest) :
    fraction? (fractionChars places nanos ++ rest) =
      some (nanos / Decimal.powerOfTen (9 - places) * Decimal.powerOfTen (9 - places), rest) := by
  by_cases hzero : places = 0
  · have hnone : nanos / Decimal.powerOfTen (9 - places) = 0 :=
      Nat.div_eq_of_lt (by rwa [hzero])
    rw [fractionChars, if_pos hzero, hnone, Nat.zero_mul, List.nil_append, fraction?]
    rintro cs rfl
    exact (hrest '.' rfl).2 rfl
  · have hpos : 0 < places := by omega
    have hlt : nanos / Decimal.powerOfTen (9 - places) < 10 ^ places := by
      apply Nat.div_lt_of_lt_mul
      rw [Nat.mul_comm]
      exact hnanos.trans_eq (powerOfTen_mul_powerOfTen hplaces).symm
    have hdigits : ∀ c ∈ padded places (nanos / Decimal.powerOfTen (9 - places)), c.isDigit :=
      fun c hc => isDigit_of_mem_padded hc
    have hspan := span_append hdigits hrest.not_digit
    rw [List.span_eq_takeWhile_dropWhile, Prod.mk.injEq] at hspan
    have hlength := length_padded hpos hlt
    have htake : (padded places (nanos / Decimal.powerOfTen (9 - places))).take 9 =
        padded places (nanos / Decimal.powerOfTen (9 - places)) :=
      List.take_of_length_le (by omega)
    obtain ⟨c, cs, hcs, -⟩ := exists_cons_padded hpos hlt
    have hvalue := ofDecimal_padded places (nanos / Decimal.powerOfTen (9 - places))
    rw [fractionChars, if_neg hzero, List.cons_append, fraction?, hspan.1, hspan.2]
    rw [hcs] at hvalue htake hlength ⊢
    simp only [htake, hvalue, hlength]

/-! ### Reading the text -/

theorem bind_eq_of_eq_some {α β : Type} {x : Option α} {a : α} {f : α → Option β} {y : Option β}
    (hx : x = some a) (hf : f a = y) : x.bind f = y := by
  rw [hx, Option.bind_some, hf]

namespace IsCommon

variable {t : Timestamp} (ht : t.IsCommon)

include ht

theorem dateTimeChars_append (places : Nat) (rest : List Char) :
    dateTimeChars places t ++ rest =
      padded 4 t.date.year.natAbs ++ '-' :: (padded 2 t.date.month ++ '-' :: (padded 2 t.date.day ++
        'T' :: (padded 2 t.hour ++ ':' :: (padded 2 t.minute ++ ':' :: (padded 2 t.second ++
          (fractionChars places t.fraction ++ rest)))))) := by
  have hyear : yearChars t.date.year = padded 4 t.date.year.natAbs := by
    have hlow := ht.year_nonneg
    have hhigh := ht.year_le
    rw [yearChars, if_neg (by omega), if_neg (by omega)]
  simp only [dateTimeChars, hyear, List.append_assoc, List.cons_append]

/-- The strict reader leaves what follows the fraction to the offset. -/
theorem ofStrictText?_append {places : Nat} (hplaces : places ≤ 9) {rest : List Char}
    (hrest : Numeral.Ends rest) :
    ofStrictText? (dateTimeChars places t ++ rest) =
      (offset? rest).bind fun (ahead, cs) =>
        if cs.isEmpty then ofSeconds? (t.seconds - ahead * 60) (t.truncate places).nanos
        else none := by
  have hdash := oneOf?_cons ['-'] '-' (by decide)
  have hcolon := oneOf?_cons [':'] ':' (by decide)
  have hletter := oneOf?_cons ['T', 't', ' '] 'T' (by decide)
  have hfixed : ∀ {n : Nat}, n < 10 ^ 2 → ∀ rest, fixed? 2 (padded 2 n ++ rest) = some (n, rest) :=
    fixed?_padded (Nat.zero_lt_two)
  have hhour := (hour_lt t).trans (by decide : 24 < 10 ^ 2)
  have hminute := (minute_lt t).trans (by decide : 60 < 10 ^ 2)
  have hsecond := ht.second_le.trans_lt (by decide : 60 < 10 ^ 2)
  -- One step for each number and each separator, which leaves what follows it in the row.
  rw [ht.dateTimeChars_append]
  apply bind_eq_of_eq_some (fixed?_padded (by decide) ht.year_lt _)
  apply bind_eq_of_eq_some (hdash _)
  apply bind_eq_of_eq_some (hfixed ht.month_lt _)
  apply bind_eq_of_eq_some (hdash _)
  apply bind_eq_of_eq_some (hfixed ht.day_lt _)
  apply bind_eq_of_eq_some (hletter _)
  apply bind_eq_of_eq_some (hfixed hhour _)
  apply bind_eq_of_eq_some (hcolon _)
  apply bind_eq_of_eq_some (hfixed hminute _)
  apply bind_eq_of_eq_some (hcolon _)
  apply bind_eq_of_eq_some (hfixed hsecond _)
  apply bind_eq_of_eq_some (fraction?_fractionChars hplaces (fraction_lt t) hrest)
  simp only [ht.ofFields?_fields hplaces]
  rfl

theorem ofStrictText?_utc {places : Nat} (hplaces : places ≤ 9) :
    ofStrictText? (dateTimeChars places t ++ ['Z']) = some (t.truncate places) := by
  have hletter : Numeral.Ends ['Z'] := by
    intro c hc
    cases hc
    decide
  rw [ht.ofStrictText?_append hplaces hletter]
  change ofSeconds? (t.seconds - 0 * 60) _ = _
  rw [zero_mul, sub_zero, ofSeconds?_of_year ht.minYear_le ht.le_maxYear]
  rfl

theorem ofStrictText?_local {places : Nat} (hplaces : places ≤ 9) :
    ofStrictText? (dateTimeChars places t) = none := by
  rw [← List.append_nil (dateTimeChars places t), ht.ofStrictText?_append hplaces .nil]
  rfl

theorem ofPlainText?_dateTimeChars {places : Nat} (hplaces : places ≤ 9) :
    ofPlainText? (dateTimeChars places t) = some (t.truncate places) := by
  have hdash := oneOf?_cons ['-'] '-' (by decide)
  have hcolon := oneOf?_cons [':'] ':' (by decide)
  have hletter := oneOf?_cons ['T'] 'T' (by decide)
  have hhour := (hour_lt t).trans (by decide : 24 < 10 ^ 2)
  have hminute := (minute_lt t).trans (by decide : 60 < 10 ^ 2)
  have hsecond := ht.second_le.trans_lt (by decide : 60 < 10 ^ 2)
  rw [← List.append_nil (dateTimeChars places t), ht.dateTimeChars_append]
  apply bind_eq_of_eq_some (year?_padded ht.year_lt _)
  apply bind_eq_of_eq_some (hdash _)
  apply bind_eq_of_eq_some (spaced?_padded ht.month_lt _)
  apply bind_eq_of_eq_some (hdash _)
  apply bind_eq_of_eq_some (spaced?_padded ht.day_lt _)
  apply bind_eq_of_eq_some (hletter _)
  apply bind_eq_of_eq_some (spaced?_padded hhour _)
  apply bind_eq_of_eq_some (hcolon _)
  apply bind_eq_of_eq_some (spaced?_padded hminute _)
  apply bind_eq_of_eq_some (hcolon _)
  apply bind_eq_of_eq_some (spaced?_padded hsecond _)
  apply bind_eq_of_eq_some (fraction?_fractionChars hplaces (fraction_lt t) .nil)
  exact ht.ofFields?_fields hplaces

/-- The text is read back with the letter for UTC and without it. -/
theorem ofText?_text {places : Nat} (hplaces : places ≤ 9) :
    ofText? (String.ofList (dateTimeChars places t ++ ['Z'])) = some (t.truncate places) ∧
      ofText? (String.ofList (dateTimeChars places t)) = some (t.truncate places) := by
  simp only [ofText?, String.toList_ofList, ht.ofStrictText?_utc hplaces,
    ht.ofStrictText?_local hplaces, ht.ofPlainText?_dateTimeChars hplaces]
  exact ⟨rfl, rfl⟩

end IsCommon

/-! ### Every text that is read has a colon -/

section Suffix

variable {cs rest : List Char}

theorem fixed?_suffix {width n : Nat} (h : fixed? width cs = some (n, rest)) : rest <:+ cs := by
  simp only [fixed?] at h
  split at h
  · obtain ⟨-, rfl⟩ := Prod.mk.inj (Option.some.inj h)
    exact List.drop_suffix _ _
  · cases h

theorem upTo?_suffix {width n : Nat} (h : upTo? width cs = some (n, rest)) : rest <:+ cs := by
  rw [upTo?] at h
  split at h
  · cases h
  · obtain ⟨-, rfl⟩ := Prod.mk.inj (Option.some.inj h)
    exact List.drop_suffix _ _

theorem oneOf?_eq_some {allowed : List Char} {c : Char} (h : oneOf? allowed cs = some (c, rest)) :
    c ∈ allowed ∧ cs = c :: rest := by
  rw [oneOf?.eq_def] at h
  split at h
  · cases h
  · split at h
    · obtain ⟨rfl, rfl⟩ := Prod.mk.inj (Option.some.inj h)
      exact ⟨‹_›, rfl⟩
    · cases h

theorem oneOf?_suffix {allowed : List Char} {c : Char} (h : oneOf? allowed cs = some (c, rest)) :
    rest <:+ cs :=
  (oneOf?_eq_some h).2 ▸ List.suffix_cons c rest

theorem spaced?_suffix {n : Nat} (h : spaced? cs = some (n, rest)) : rest <:+ cs :=
  (upTo?_suffix h).trans (List.dropWhile_suffix _)

theorem year?_suffix {year : Int} (h : year? cs = some (year, rest)) : rest <:+ cs := by
  have hblank : Text.skipBlank cs <:+ cs := List.dropWhile_suffix _
  rw [year?] at h
  split at h
  · rename_i digits heq
    obtain ⟨⟨n, after⟩, hread, heq'⟩ := Option.map_eq_some_iff.1 h
    obtain ⟨-, rfl⟩ := Prod.mk.inj heq'
    exact (upTo?_suffix hread).trans ((List.suffix_cons _ _).trans (heq ▸ hblank))
  · rename_i digits heq
    obtain ⟨⟨n, after⟩, hread, heq'⟩ := Option.map_eq_some_iff.1 h
    obtain ⟨-, rfl⟩ := Prod.mk.inj heq'
    exact (upTo?_suffix hread).trans ((List.suffix_cons _ _).trans (heq ▸ hblank))
  · obtain ⟨⟨n, after⟩, hread, heq'⟩ := Option.map_eq_some_iff.1 h
    obtain ⟨-, rfl⟩ := Prod.mk.inj heq'
    exact (upTo?_suffix hread).trans hblank

end Suffix

/-- What a later step finds in the rest of a text is in the text. -/
theorem mem_of_bind {α β : Type} {read : Reading α} {cs : List Char} {c : Char}
    {next : α × List Char → Option β} {b : β}
    (hsuffix : ∀ {a rest}, read cs = some (a, rest) → rest <:+ cs)
    (hnext : ∀ a rest, next (a, rest) = some b → c ∈ rest) (h : (read cs).bind next = some b) :
    c ∈ cs := by
  obtain ⟨⟨a, rest⟩, hread, hrest⟩ := Option.bind_eq_some_iff.1 h
  exact (hsuffix hread).subset (hnext a rest hrest)

theorem mem_of_oneOf?_bind {β : Type} {cs : List Char} {c : Char}
    {next : Char × List Char → Option β} {b : β} (h : (oneOf? [c] cs).bind next = some b) :
    c ∈ cs := by
  obtain ⟨⟨found, rest⟩, hread, -⟩ := Option.bind_eq_some_iff.1 h
  obtain ⟨hfound, rfl⟩ := oneOf?_eq_some hread
  exact List.mem_singleton.1 hfound ▸ List.mem_cons_self

theorem colon_mem_of_ofStrictText? {cs : List Char} {t : Timestamp}
    (h : ofStrictText? cs = some t) : ':' ∈ cs := by
  refine mem_of_bind fixed?_suffix (fun _ _ h => ?_) h
  refine mem_of_bind oneOf?_suffix (fun _ _ h => ?_) h
  refine mem_of_bind fixed?_suffix (fun _ _ h => ?_) h
  refine mem_of_bind oneOf?_suffix (fun _ _ h => ?_) h
  refine mem_of_bind fixed?_suffix (fun _ _ h => ?_) h
  refine mem_of_bind oneOf?_suffix (fun _ _ h => ?_) h
  exact mem_of_bind fixed?_suffix (fun _ _ h => mem_of_oneOf?_bind h) h

theorem colon_mem_of_ofPlainText? {cs : List Char} {t : Timestamp}
    (h : ofPlainText? cs = some t) : ':' ∈ cs := by
  refine mem_of_bind year?_suffix (fun _ _ h => ?_) h
  refine mem_of_bind oneOf?_suffix (fun _ _ h => ?_) h
  refine mem_of_bind spaced?_suffix (fun _ _ h => ?_) h
  refine mem_of_bind oneOf?_suffix (fun _ _ h => ?_) h
  refine mem_of_bind spaced?_suffix (fun _ _ h => ?_) h
  refine mem_of_bind oneOf?_suffix (fun _ _ h => ?_) h
  exact mem_of_bind spaced?_suffix (fun _ _ h => mem_of_oneOf?_bind h) h

/-- The time of day of a timestamp has a colon in both forms. -/
theorem colon_mem_of_ofText? {s : String} {t : Timestamp} (h : ofText? s = some t) :
    ':' ∈ s.toList := by
  rw [ofText?, Option.orElse_eq_orElse, Option.orElse_eq_or, Option.or_eq_some_iff] at h
  rcases h with h | ⟨-, h⟩
  · exact colon_mem_of_ofStrictText? h
  · exact colon_mem_of_ofPlainText? h

end SeriesSql.Timestamp
