import Mathlib
import SeriesSql.Number.Shortest

/-!
# Numerals

The text of an integer or of a finite double is a numeral: an optional minus sign, digits, and at
most one point, which has digits on both sides. There is no exponent. A numeral that is read from
the front of a longer text ends where neither a digit nor a point follows it.
-/

namespace SeriesSql

/-- The longest front part whose characters have a property ends where the first one without it
stands. -/
theorem span_append {α : Type} {p : α → Bool} {body rest : List α} (hbody : ∀ c ∈ body, p c)
    (hrest : ∀ c ∈ rest.head?, p c = false) : (body ++ rest).span p = (body, rest) := by
  rw [List.span_eq_takeWhile_dropWhile, List.takeWhile_append_of_pos hbody,
    List.dropWhile_append_of_pos hbody]
  cases rest with
  | nil => simp
  | cons c rest =>
    have hc : p c = false := hrest c rfl
    simp [hc]

/-- The two parts of a split make up the whole, and the second starts where the property ends. -/
theorem eq_append_of_span {α : Type} {p : α → Bool} {as body rest : List α}
    (h : as.span p = (body, rest)) :
    as = body ++ rest ∧ (∀ a ∈ body, p a) ∧ ∀ a ∈ rest.head?, p a = false := by
  rw [List.span_eq_takeWhile_dropWhile, Prod.mk.injEq] at h
  obtain ⟨rfl, rfl⟩ := h
  refine ⟨List.takeWhile_append_dropWhile.symm, fun a ha => List.mem_takeWhile_imp ha, ?_⟩
  intro a ha
  have hhead := List.head?_dropWhile_not p as
  rw [Option.mem_def.1 ha] at hhead
  simpa using hhead

namespace Numeral

/-- Reads digits, and a point and further digits if there are any. Gives what it read, and the
rest. -/
def unsigned? (cs : List Char) : Option (List Char × List Char) :=
  match cs.span Char.isDigit with
  | ([], _) => none
  | (whole, '.' :: rest) =>
    match rest.span Char.isDigit with
    | ([], _) => some (whole, '.' :: rest)
    | (fraction, rest) => some (whole ++ '.' :: fraction, rest)
  | (whole, rest) => some (whole, rest)

def read? : List Char → Option (List Char × List Char)
  | '-' :: cs => (unsigned? cs).map fun (digits, rest) => ('-' :: digits, rest)
  | cs => unsigned? cs

theorem exists_digit_of_unsigned? {cs digits rest : List Char}
    (h : unsigned? cs = some (digits, rest)) : ∃ c tail, cs = c :: tail ∧ c.isDigit := by
  cases cs with
  | nil => cases h
  | cons c tail =>
    by_cases hc : c.isDigit
    · exact ⟨c, tail, rfl, hc⟩
    · rw [unsigned?, List.span_eq_takeWhile_dropWhile, List.takeWhile_cons_of_neg hc] at h
      cases h

def Digits (cs : List Char) : Prop :=
  cs ≠ [] ∧ ∀ c ∈ cs, c.isDigit

inductive Unsigned : List Char → Prop where
  | whole {ds : List Char} : Digits ds → Unsigned ds
  | fraction {ds fs : List Char} : Digits ds → Digits fs → Unsigned (ds ++ '.' :: fs)

inductive Signed : List Char → Prop where
  | plain {cs : List Char} : Unsigned cs → Signed cs
  | minus {cs : List Char} : Unsigned cs → Signed ('-' :: cs)

/-- A text that does not continue a numeral before it. -/
def Ends (rest : List Char) : Prop :=
  ∀ c ∈ rest.head?, c.isDigit = false ∧ c ≠ '.'

theorem Ends.nil : Ends [] := by
  intro c hc
  simp at hc

theorem Ends.not_digit {rest : List Char} (hrest : Ends rest) :
    ∀ c ∈ rest.head?, c.isDigit = false :=
  fun c hc => (hrest c hc).1

theorem Unsigned.exists_digit {cs : List Char} (h : Unsigned cs) :
    ∃ c rest, cs = c :: rest ∧ c.isDigit := by
  cases h with
  | whole hds =>
    obtain ⟨c, rest, rfl⟩ := List.exists_cons_of_ne_nil hds.1
    exact ⟨c, rest, rfl, hds.2 c List.mem_cons_self⟩
  | @fraction ds fs hds hfs =>
    obtain ⟨c, rest, rfl⟩ := List.exists_cons_of_ne_nil hds.1
    exact ⟨c, rest ++ '.' :: fs, rfl, hds.2 c List.mem_cons_self⟩

/-- A numeral without a sign is read up to its end. -/
theorem unsigned?_append {cs rest : List Char} (h : Unsigned cs) (hrest : Ends rest) :
    unsigned? (cs ++ rest) = some (cs, rest) := by
  cases h with
  | whole hds =>
    obtain ⟨c, ds, rfl⟩ := List.exists_cons_of_ne_nil hds.1
    rw [unsigned?, span_append hds.2 hrest.not_digit]
    cases rest with
    | nil => rfl
    | cons d rest =>
      have hd : d ≠ '.' := (hrest d rfl).2
      simp [hd]
  | @fraction ds fs hds hfs =>
    obtain ⟨c, ds, rfl⟩ := List.exists_cons_of_ne_nil hds.1
    obtain ⟨d, fs, rfl⟩ := List.exists_cons_of_ne_nil hfs.1
    have hpoint : ∀ x ∈ ('.' :: (d :: fs ++ rest)).head?, x.isDigit = false := by
      intro x hx
      cases hx
      decide
    rw [List.append_assoc, unsigned?, List.cons_append (a := '.'), span_append hds.2 hpoint]
    simp only
    rw [span_append hfs.2 hrest.not_digit]

/-- A numeral is read up to its end. -/
theorem read?_append {cs rest : List Char} (h : Signed cs) (hrest : Ends rest) :
    read? (cs ++ rest) = some (cs, rest) := by
  cases h with
  | plain hcs =>
    obtain ⟨c, tail, rfl, hc⟩ := hcs.exists_digit
    have hne : c ≠ '-' := by
      rintro rfl
      exact absurd hc (by decide)
    rw [← unsigned?_append hcs hrest, List.cons_append]
    simp [read?, hne]
  | minus hcs =>
    rw [List.cons_append, read?, unsigned?_append hcs hrest]
    rfl

theorem unsigned_of_unsigned? {cs digits rest : List Char}
    (h : unsigned? cs = some (digits, rest)) : cs = digits ++ rest ∧ Unsigned digits := by
  rw [unsigned?] at h
  split at h
  · cases h
  · rename_i whole more hne hspan
    obtain ⟨rfl, hwhole, -⟩ := eq_append_of_span hspan
    split at h
    · obtain ⟨rfl, rfl⟩ := Prod.mk.inj (Option.some.inj h)
      exact ⟨rfl, .whole ⟨hne, hwhole⟩⟩
    · rename_i fraction after hne' hspan'
      obtain ⟨rfl, hfraction, -⟩ := eq_append_of_span hspan'
      obtain ⟨rfl, rfl⟩ := Prod.mk.inj (Option.some.inj h)
      exact ⟨by simp, .fraction ⟨hne, hwhole⟩ ⟨hne', hfraction⟩⟩
  · rename_i whole after hne _ hspan
    obtain ⟨rfl, hwhole, -⟩ := eq_append_of_span hspan
    obtain ⟨rfl, rfl⟩ := Prod.mk.inj (Option.some.inj h)
    exact ⟨rfl, .whole ⟨hne, hwhole⟩⟩

/-- What is read is a numeral in front of the rest. -/
theorem signed_of_read? {cs digits rest : List Char} (h : read? cs = some (digits, rest)) :
    cs = digits ++ rest ∧ Signed digits := by
  unfold read? at h
  split at h
  · obtain ⟨⟨ds, after⟩, hds, heq⟩ := Option.map_eq_some_iff.1 h
    obtain ⟨rfl, rfl⟩ := Prod.mk.inj heq
    obtain ⟨rfl, hunsigned⟩ := unsigned_of_unsigned? hds
    exact ⟨rfl, .minus hunsigned⟩
  · obtain ⟨rfl, hunsigned⟩ := unsigned_of_unsigned? h
    exact ⟨rfl, .plain hunsigned⟩

/-- A digit or a minus sign starts a numeral. -/
theorem Signed.exists_head {cs : List Char} (h : Signed cs) :
    ∃ c rest, cs = c :: rest ∧ (c.isDigit ∨ c = '-') := by
  cases h with
  | plain hcs =>
    obtain ⟨c, rest, rfl, hc⟩ := hcs.exists_digit
    exact ⟨c, rest, rfl, Or.inl hc⟩
  | minus hcs => exact ⟨'-', _, rfl, Or.inr rfl⟩

/-- Digits, points and minus signs are all that stands in a numeral. -/
theorem Signed.mem {cs : List Char} (h : Signed cs) {c : Char} (hc : c ∈ cs) :
    c.isDigit ∨ c = '.' ∨ c = '-' := by
  have hunsigned : ∀ {ds : List Char}, Unsigned ds → c ∈ ds → c.isDigit ∨ c = '.' := by
    intro ds hds hmem
    cases hds with
    | whole hds => exact Or.inl (hds.2 c hmem)
    | fraction hds hfs =>
      rcases List.mem_append.1 hmem with hmem | hmem
      · exact Or.inl (hds.2 c hmem)
      · rcases List.mem_cons.1 hmem with rfl | hmem
        · exact Or.inr rfl
        · exact Or.inl (hfs.2 c hmem)
  cases h with
  | plain hcs =>
    rcases hunsigned hcs hc with h | h
    · exact Or.inl h
    · exact Or.inr (Or.inl h)
  | minus hcs =>
    rcases List.mem_cons.1 hc with rfl | hc
    · exact Or.inr (Or.inr rfl)
    · rcases hunsigned hcs hc with h | h
      · exact Or.inl h
      · exact Or.inr (Or.inl h)

/-! ### The texts of numbers -/

theorem digits_toDigits (n : Nat) : Digits (Nat.toDigits 10 n) :=
  ⟨Nat.toDigits_ne_nil, fun _ hc => Nat.isDigit_of_mem_toDigits (by decide) (by decide) hc⟩

theorem toNat_of_isDigit {c : Char} (hc : c.isDigit) : 48 ≤ c.toNat ∧ c.toNat ≤ 57 := by
  simpa [Char.isDigit, UInt32.le_iff_toNat_le] using hc

theorem toLower_of_isDigit {c : Char} (hc : c.isDigit) : c.toLower = c := by
  rw [Char.isDigit, Bool.and_eq_true, decide_eq_true_eq, decide_eq_true_eq] at hc
  rw [Char.toLower, dif_neg]
  rintro ⟨hletter, -⟩
  exact absurd (UInt32.le_trans hletter hc.2) (by decide)

theorem toList_intToString (n : Int) :
    (toString n).toList =
      if n < 0 then '-' :: Nat.toDigits 10 n.natAbs else Nat.toDigits 10 n.natAbs := by
  cases n with
  | ofNat n =>
    have hn : ¬ Int.ofNat n < 0 := by simp
    rw [if_neg hn]
    exact Nat.toList_repr
  | negSucc n =>
    rw [if_pos (Int.negSucc_lt_zero n)]
    change ("-" ++ n.succ.repr).toList = _
    rw [String.toList_append, Nat.toList_repr]
    rfl

theorem signed_int (n : Int) : Signed (toString n).toList := by
  rw [toList_intToString]
  split
  · exact .minus (.whole (digits_toDigits _))
  · exact .plain (.whole (digits_toDigits _))

private theorem mem_of_mem_fractionDigits {cs : List Char} {c : Char}
    (hc : c ∈ Decimal.fractionDigits cs) : c ∈ cs := by
  rw [Decimal.fractionDigits, List.mem_reverse] at hc
  exact List.mem_reverse.1 ((List.dropWhile_sublist _).subset hc)

theorem isDigit_of_mem_padded {count n : Nat} {c : Char}
    (hc : c ∈ List.replicate count '0' ++ Nat.toDigits 10 n) : c.isDigit := by
  rcases List.mem_append.1 hc with hc | hc
  · rw [(List.mem_replicate.1 hc).2]
    decide
  · exact (digits_toDigits n).2 c hc

theorem unsigned_positional (significand : Nat) (exponent : Int) :
    Unsigned (Decimal.positional significand exponent) := by
  rw [Decimal.positional]
  split
  · split
    · exact .whole ⟨by simp, List.forall_mem_singleton.2 (by decide)⟩
    · refine .whole ⟨by simp [Nat.toDigits_ne_nil], ?_⟩
      intro c hc
      rcases List.mem_append.1 hc with hc | hc
      · exact (digits_toDigits _).2 c hc
      · rw [(List.mem_replicate.1 hc).2]
        decide
  · -- The padding keeps at least one digit before the point.
    generalize (-exponent).toNat = places
    generalize hpadded : List.replicate (places + 1 - (Nat.toDigits 10 significand).length) '0' ++
      Nat.toDigits 10 significand = padded
    have hdigit : ∀ c ∈ padded, c.isDigit := by
      intro c hc
      rw [← hpadded] at hc
      exact isDigit_of_mem_padded hc
    have hlength : places < padded.length := by
      rw [← hpadded, List.length_append, List.length_replicate]
      omega
    have hwhole : Digits (padded.take (padded.length - places)) := by
      refine ⟨?_, fun c hc => hdigit c (List.mem_of_mem_take hc)⟩
      rw [← List.length_pos_iff, List.length_take]
      omega
    have hfraction : ∀ c ∈ Decimal.fractionDigits (padded.drop (padded.length - places)),
        c.isDigit :=
      fun c hc => hdigit c (List.mem_of_mem_drop (mem_of_mem_fractionDigits hc))
    simp only [hpadded]
    split
    · exact .whole hwhole
    · rename_i hne
      exact .fraction hwhole ⟨hne, hfraction⟩

theorem signed_decimal (d : Decimal) : Signed d.toText.toList := by
  rw [Decimal.toText, String.toList_ofList]
  split
  · exact .minus (unsigned_positional _ _)
  · exact .plain (unsigned_positional _ _)

/-- A finite double is written without an exponent. -/
theorem signed_finite (negative : Bool) (rank : Fin 0x7FF0000000000000) :
    Signed (Double.finite negative rank).toText.toList :=
  signed_decimal (Double.toDecimal negative rank)

end Numeral
end SeriesSql
