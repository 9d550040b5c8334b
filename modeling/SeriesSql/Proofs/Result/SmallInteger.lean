import Mathlib
import SeriesSql.Proofs.Json.NumberValue
import SeriesSql.Proofs.Result.Cell

/-!
# Small integers

A column of small integers takes numbers and texts. A text is digits with an optional sign. A number
may have a fraction and an exponent, and is looked at as the nearest double unless it is written as
an integer. So an exact integer in the range of its column is always decoded, and a number that is
not one is decoded as well if no double is nearer to it than the integer.
-/

namespace SeriesSql

open ColumnType (ofWireName?)
open Document (WrittenNumber)

namespace Cell

theorem int64?_eq_some_iff {cs : List Char} {n : ℤ} :
    int64? cs = some n ↔
      Integer.Denotes cs n ∧ Int64.minValue.toInt ≤ n ∧ n ≤ Int64.maxValue.toInt := by
  rw [int64?, Integer.within?, Option.filter_eq_some_iff, Integer.plain?_eq_some_iff]
  simp

/-- An integer well within 64 bits is not rounded down to the greatest of them. -/
theorem int64OfDouble?_eq_some_iff {x : Double} {n : ℤ} (hn : n.natAbs < 2 ^ 32) :
    int64OfDouble? x = some n ↔ x.toInt? = some n := by
  have hmin : Int64.minValue.toInt = -2 ^ 63 := rfl
  have hmax : Int64.maxValue.toInt = 2 ^ 63 - 1 := rfl
  simp only [int64OfDouble?, hmin, hmax, Option.map_eq_some_iff, Option.filter_eq_some_iff,
    Bool.and_eq_true, decide_eq_true_eq]
  constructor
  · rintro ⟨k, ⟨hk, -⟩, hmin⟩
    rw [hk]
    congr 1
    omega
  · intro h
    exact ⟨n, ⟨h, by omega, by omega⟩, by omega⟩

theorem double?_text (number : WrittenNumber) :
    double? number.text = some (Double.ofDecimal number.decimal) ∨
      double? number.text = none ∧ (Double.ofDecimal number.decimal).toInt? = none := by
  rw [double?, number.decimal?_text, Option.map_some, Option.filter_some]
  cases Double.ofDecimal number.decimal with
  | finite negative rank => exact .inl rfl
  | nan => exact .inr ⟨rfl, rfl⟩
  | infinite negative => exact .inr ⟨rfl, rfl⟩

/-- Whether a number is written as an integer or not, it is taken for the small integer that no
double is nearer to. -/
theorem smallInteger?_number_eq_some_iff (number : WrittenNumber) {n : ℤ}
    (hn : n.natAbs < 2 ^ 32) :
    smallInteger? (.number number.text) = some n ↔ Double.NoneNearer number.value n := by
  rw [smallInteger?]
  cases hread : int64? number.text.toList with
  | some m =>
    obtain ⟨d, hd, hvalue⟩ := Decimal.exists_of_denotes (int64?_eq_some_iff.1 hread).1
    rw [number.decimal?_text, Option.some_inj] at hd
    rw [← number.value_decimal, hd, hvalue, Double.noneNearer_int_iff (by omega)]
    exact Option.some_inj
  | none =>
    change (double? number.text).bind int64OfDouble? = some n ↔ _
    rw [← number.value_decimal, ← Double.toInt?_ofDecimal_eq_some_iff (by omega)]
    rcases double?_text number with hdouble | ⟨hdouble, hnone⟩
    · rw [hdouble, Option.bind_some, int64OfDouble?_eq_some_iff hn]
    · rw [hdouble, hnone, Option.bind_none]

theorem smallInteger?_string_eq_some_iff (text : String) {n : ℤ} (hn : n.natAbs < 2 ^ 32) :
    smallInteger? (.string text) = some n ↔ Integer.Denotes (Text.trim text).toList n := by
  have hmin : Int64.minValue.toInt = -2 ^ 63 := rfl
  have hmax : Int64.maxValue.toInt = 2 ^ 63 - 1 := rfl
  rw [smallInteger?, int64?_eq_some_iff, hmin, hmax]
  exact and_iff_left (by omega)

/-- The least and the greatest integer of a column of small integers. -/
def smallRange? : ColumnType → Option (ℤ × ℤ)
  | .byte => some (-2 ^ 7, 2 ^ 7 - 1)
  | .short => some (-2 ^ 15, 2 ^ 15 - 1)
  | .int => some (-2 ^ 31, 2 ^ 31 - 1)
  | _ => none

section Range

variable {type : ColumnType} {lo hi : ℤ}

theorem smallRange?_bounds (htype : smallRange? type = some (lo, hi)) :
    -2 ^ 31 ≤ lo ∧ hi < 2 ^ 31 := by
  cases type with
  | byte | short | int =>
    obtain ⟨rfl, rfl⟩ := Prod.mk.inj (Option.some.inj htype)
    decide
  | _ => cases htype

theorem ofType_small (htype : smallRange? type = some (lo, hi)) (cell : Json) :
    ofType type cell = boundedInteger lo hi cell := by
  cases type with
  | byte | short | int =>
    obtain ⟨rfl, rfl⟩ := Prod.mk.inj (Option.some.inj htype)
    rfl
  | _ => cases htype

variable {wire : String} {cell : Json}

theorem decode_small (htype : smallRange? type = some (lo, hi))
    (hwire : ofWireName? wire = some type) (hcell : cell ≠ .null) :
    decode cell wire = (boundedInteger lo hi cell).mapError (.decode cell wire) := by
  rw [decode_eq_mapError hwire hcell, ofType_small htype]

theorem decode_small_eq_ok_iff (htype : smallRange? type = some (lo, hi))
    (hwire : ofWireName? wire = some type) (hcell : cell ≠ .null) {n : Int64} :
    decode cell wire = .ok (.int n) ↔
      lo ≤ n.toInt ∧ n.toInt ≤ hi ∧ smallInteger? cell = some n.toInt := by
  have hrange := smallRange?_bounds htype
  rw [decode_small htype hwire hcell, boundedInteger]
  split
  · rename_i hnone
    rw [hnone]
    exact ⟨nofun, nofun⟩
  · rename_i m hsome
    rw [hsome, Option.some_inj]
    split
    · rename_i hm
      have hword : (Int64.ofInt m).toInt = m := Int64.toInt_ofInt_of_le (by omega) (by omega)
      constructor
      · intro h
        cases h
        rw [hword]
        exact ⟨hm.1, hm.2, rfl⟩
      · rintro ⟨-, -, rfl⟩
        rw [Int64.ofInt_toInt]
        rfl
    · rename_i hm
      refine ⟨nofun, ?_⟩
      rintro ⟨hlo, hhi, rfl⟩
      exact absurd ⟨hlo, hhi⟩ hm

/-- A cell that is not decoded is blamed. -/
theorem decode_small_ok_or_error (htype : smallRange? type = some (lo, hi))
    (hwire : ofWireName? wire = some type) (hcell : cell ≠ .null) :
    (∃ n, decode cell wire = .ok (.int n)) ∨
      ∃ fault, decode cell wire = .error (.decode cell wire fault) := by
  rw [decode_small htype hwire hcell, boundedInteger]
  split
  · exact .inr ⟨_, rfl⟩
  · split
    · exact .inl ⟨_, rfl⟩
    · exact .inr ⟨_, rfl⟩

end Range

/-- A number in a column of small integers is decoded exactly to the integer of its range that no
double is nearer to. A number that is an integer is therefore decoded to nothing but itself, in
whatever way it is written, and one that is no integer if it rounds to one. A text is decoded
exactly to the integer of its range that it denotes. Anything else is an error that names the
cell. -/
theorem small_integer_decode_iff {type : ColumnType} {lo hi : ℤ}
    (htype : smallRange? type = some (lo, hi)) {wire : String}
    (hwire : ofWireName? wire = some type) :
    (∀ (number : WrittenNumber) (n : Int64),
        decode (.number number.text) wire = .ok (.int n) ↔
          lo ≤ n.toInt ∧ n.toInt ≤ hi ∧ Double.NoneNearer number.value n.toInt) ∧
      (∀ (number : WrittenNumber) (m : ℤ), number.value = m → ∀ n : Int64,
        decode (.number number.text) wire = .ok (.int n) ↔
          lo ≤ n.toInt ∧ n.toInt ≤ hi ∧ m = n.toInt) ∧
      (∀ (text : String) (n : Int64),
        decode (.string text) wire = .ok (.int n) ↔
          lo ≤ n.toInt ∧ n.toInt ≤ hi ∧ Integer.Denotes (Text.trim text).toList n.toInt) ∧
      ∀ cell, cell ≠ .null →
        (∃ n, decode cell wire = .ok (.int n)) ∨
          ∃ fault, decode cell wire = .error (.decode cell wire fault) := by
  obtain ⟨hlo, hhi⟩ := smallRange?_bounds htype
  have hnumber : ∀ (number : WrittenNumber) (n : Int64),
      decode (.number number.text) wire = .ok (.int n) ↔
        lo ≤ n.toInt ∧ n.toInt ≤ hi ∧ Double.NoneNearer number.value n.toInt := by
    intro number n
    have hcell : Json.number number.text ≠ .null := nofun
    rw [decode_small_eq_ok_iff htype hwire hcell]
    refine and_congr_right fun hn => and_congr_right fun hn' => ?_
    exact smallInteger?_number_eq_some_iff number (by omega)
  refine ⟨hnumber, fun number m hm n => ?_, fun text n => ?_, fun cell hcell =>
    decode_small_ok_or_error htype hwire hcell⟩
  · rw [hnumber, hm]
    refine and_congr_right fun hn => and_congr_right fun hn' => ?_
    exact Double.noneNearer_int_iff (by omega)
  · have hcell : Json.string text ≠ .null := nofun
    rw [decode_small_eq_ok_iff htype hwire hcell]
    refine and_congr_right fun hn => and_congr_right fun hn' => ?_
    exact smallInteger?_string_eq_some_iff text (by omega)

def nearOne : WrittenNumber where
  negative := false
  whole := ['1']
  fraction := List.replicate 19 '0' ++ ['1']
  exponent := none
  whole_spec := by simp [Numeral.Digits]
  whole_plain := by decide
  fraction_spec := by simp

/-- It is not one, but no double is nearer to it than one. -/
theorem small_integer_decode_iff_nearOne :
    smallRange? .byte = some (-2 ^ 7, 2 ^ 7 - 1) ∧ ofWireName? "BYTE" = some .byte ∧
      nearOne.text = "1.00000000000000000001" ∧ nearOne.value ≠ 1 ∧
      decode (.number nearOne.text) "BYTE" = .ok (.int 1) := by
  have hwire : ofWireName? "BYTE" = some .byte := by decide
  have hdouble : (Double.ofDecimal nearOne.decimal).toInt? = some 1 := by decide +kernel
  have hnear : Double.NoneNearer nearOne.value (1 : Int64).toInt := by
    rw [← nearOne.value_decimal]
    exact (Double.toInt?_ofDecimal_eq_some_iff (by decide)).1 hdouble
  have hvalue : nearOne.value ≠ 1 := by
    have hfraction : Integer.ofDecimal nearOne.fraction = 1 := by decide
    have hwhole : Integer.ofDecimal nearOne.whole = 1 := by decide
    rw [WrittenNumber.value, hwhole, hfraction]
    norm_num [nearOne, WrittenNumber.exponentValue]
  exact ⟨rfl, hwire, rfl, hvalue,
    ((small_integer_decode_iff rfl hwire).1 nearOne 1).2 ⟨by decide, by decide, hnear⟩⟩

end Cell
end SeriesSql
