import Mathlib
import SeriesSql.Proofs.Json.Number
import SeriesSql.Proofs.Number.Nearest

/-!
# The value of a written number

A JSON number stands for a rational number. Its digits and its exponent are read as a decimal
number of the same value, whether or not a reader has completed the exponent's sign.
-/

namespace SeriesSql

namespace Decimal

variable {negative : Bool} {whole rest : List Char}

theorem unsigned?_whole (hwhole : Numeral.Digits whole)
    (hrest : ∀ c ∈ rest.head?, c.isDigit = false ∧ c ≠ '.') :
    unsigned? negative (whole ++ rest) =
      (exponent? rest).map fun e => ⟨negative, Integer.ofDecimal whole, e⟩ := by
  have hspan := span_append hwhole.2 fun c hc => (hrest c hc).1
  rw [List.span_eq_takeWhile_dropWhile, Prod.mk.injEq] at hspan
  rw [unsigned?, hspan.1, hspan.2]
  cases rest with
  | nil => simp [hwhole.1]
  | cons c rest =>
    have hc : c ≠ '.' := (hrest c rfl).2
    simp [hwhole.1, hc]

theorem unsigned?_fraction {fraction : List Char} (hwhole : Numeral.Digits whole)
    (hfraction : ∀ c ∈ fraction, c.isDigit) (hrest : ∀ c ∈ rest.head?, c.isDigit = false) :
    unsigned? negative (whole ++ '.' :: (fraction ++ rest)) =
      (exponent? rest).map fun e =>
        ⟨negative, Integer.ofDecimal (whole ++ fraction), e - fraction.length⟩ := by
  have hpoint : ∀ c ∈ ('.' :: (fraction ++ rest)).head?, c.isDigit = false := by
    rintro c ⟨⟩
    rfl
  have hspan := span_append hwhole.2 hpoint
  have hspan' := span_append hfraction hrest
  rw [List.span_eq_takeWhile_dropWhile, Prod.mk.injEq] at hspan hspan'
  rw [unsigned?, hspan.1, hspan.2]
  simp [hwhole.1, hspan'.1, hspan'.2]

end Decimal

namespace Document

def WrittenExponent.value (e : WrittenExponent) : ℤ :=
  if e.sign = some '-' then -Integer.ofDecimal e.digits else Integer.ofDecimal e.digits

namespace WrittenNumber

/-- The exponent of a number, zero if there is none. -/
def exponentValue (n : WrittenNumber) : ℤ :=
  (n.exponent.map WrittenExponent.value).getD 0

def value (n : WrittenNumber) : ℚ :=
  signed n.negative *
    ((Integer.ofDecimal n.whole + Integer.ofDecimal n.fraction / 10 ^ n.fraction.length) *
      10 ^ n.exponentValue)

def decimal (n : WrittenNumber) : Decimal :=
  ⟨n.negative, Integer.ofDecimal (n.whole ++ n.fraction), n.exponentValue - n.fraction.length⟩

theorem value_decimal (n : WrittenNumber) : n.decimal.value = n.value := by
  have hpower : (10 : ℚ) ^ (n.exponentValue - n.fraction.length) =
      10 ^ n.exponentValue / 10 ^ n.fraction.length := by
    rw [zpow_sub₀ (by norm_num), zpow_natCast]
  rw [Decimal.value, value, decimal, Integer.ofDecimal_append, hpower]
  push_cast
  field_simp

end WrittenNumber

/-! ### The text that a reader keeps -/

theorem WrittenExponent.value_kept (e : WrittenExponent) : e.kept.value = e.value := by
  rw [value, value]
  change (if some (e.sign.getD '+') = some '-' then -(Integer.ofDecimal e.digits : ℤ)
    else Integer.ofDecimal e.digits) = _
  cases e.sign <;> rfl

theorem WrittenExponent.plain? (e : WrittenExponent) :
    Integer.plain? (e.sign.toList ++ e.digits) = some e.value := by
  rw [Integer.plain?_eq_some_iff, value]
  cases hsign : e.sign with
  | none => exact .plain e.digits_spec
  | some sign =>
    rcases e.sign_mem sign hsign with rfl | rfl
    · exact .plus e.digits_spec
    · exact .minus e.digits_spec

namespace WrittenNumber

variable (n : WrittenNumber)

theorem decimal_kept : n.kept.decimal = n.decimal := by
  have hexponent : n.kept.exponentValue = n.exponentValue := by
    rw [exponentValue, exponentValue, kept]
    cases n.exponent with
    | none => rfl
    | some e => exact e.value_kept
  rw [decimal, decimal, hexponent]
  rfl

theorem exponent?_exponentChars : Decimal.exponent? n.exponentChars = some n.exponentValue := by
  rw [exponentChars, exponentValue]
  cases n.exponent with
  | none => rfl
  | some e =>
    rw [Option.map_some, Option.map_some, Option.getD_some, Option.getD_some,
      WrittenExponent.chars]
    rcases e.letter_mem with hletter | hletter
    · rw [hletter, Decimal.exponent?, e.plain?]
    · rw [hletter, Decimal.exponent?, e.plain?]

theorem unsigned?_magnitude : Decimal.unsigned? n.negative n.magnitude = some n.decimal := by
  have hends : NumberEnds [] := by simp [NumberEnds]
  have hexponent := n.head?_exponentChars hends
  rw [List.append_nil] at hexponent
  rw [magnitude, fractionChars, List.append_assoc]
  split
  · rename_i hempty
    rw [List.nil_append, Decimal.unsigned?_whole n.whole_spec hexponent,
      n.exponent?_exponentChars, decimal, hempty]
    simp
  · rw [List.cons_append, Decimal.unsigned?_fraction n.whole_spec n.fraction_spec
      fun c hc => (hexponent c hc).1, n.exponent?_exponentChars]
    rfl

theorem decimal?_chars : Decimal.ofText? n.chars = some n.decimal := by
  rw [← unsigned?_magnitude, chars]
  split
  · rename_i hnegative
    rw [hnegative]
    rfl
  · rename_i hnegative
    rw [Bool.not_eq_true] at hnegative
    obtain ⟨c, cs, hmagnitude, hc⟩ := n.exists_digit_magnitude
    rw [hnegative, hmagnitude, Decimal.ofText?]
    · rintro cs heq
      rw [(List.cons.inj heq).1] at hc
      cases hc
    · rintro cs heq
      rw [(List.cons.inj heq).1] at hc
      cases hc

/-- The text of a number is read as a decimal number of its value. -/
theorem decimal?_text : Decimal.ofText? n.text.toList = some n.decimal := by
  rw [text, String.toList_ofList, decimal?_chars, decimal_kept]

/-- The digits of a number that is written as an integer denote its value. -/
theorem exists_denotes (h : n.IsWhole) : ∃ m : ℤ, Integer.Denotes n.chars m ∧ n.value = m := by
  have hvalue : n.value = signed n.negative * Integer.ofDecimal n.whole := by
    simp [value, exponentValue, h.1, h.2, Integer.ofDecimal, Integer.ofDigits]
  rw [n.chars_of_isWhole h, hvalue]
  cases n.negative with
  | true => exact ⟨_, .minus n.whole_spec, by simp⟩
  | false => exact ⟨_, .plain n.whole_spec, by simp⟩

end WrittenNumber
end Document

/-- An integer is read as a decimal number of the same value. -/
theorem Decimal.exists_of_denotes {cs : List Char} {n : ℤ} (h : Integer.Denotes cs n) :
    ∃ d, ofText? cs = some d ∧ d.value = n := by
  have hread : ∀ {ds : List Char} (negative : Bool), Numeral.Digits ds →
      unsigned? negative ds = some ⟨negative, Integer.ofDecimal ds, 0⟩ := by
    intro ds negative hds
    have hwhole := @unsigned?_whole negative ds [] hds (by simp)
    rwa [List.append_nil] at hwhole
  cases h with
  | plain hds =>
    refine ⟨⟨false, Integer.ofDecimal cs, 0⟩, ?_, by simp [value]⟩
    rw [ofText?, hread false hds]
    · rintro ds rfl
      exact Integer.not_digits_cons rfl ds hds
    · rintro ds rfl
      exact Integer.not_digits_cons rfl ds hds
  | plus hds => exact ⟨_, hread false hds, by simp [value]⟩
  | minus hds => exact ⟨_, hread true hds, by simp [value]⟩

end SeriesSql
