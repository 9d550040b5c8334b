import Mathlib
import SeriesSql.Proofs.Json.NumberValue
import SeriesSql.Proofs.Text.Blank
import SeriesSql.Result.Cell

/-!
# Cells of columns with a known type

A cell is decoded by the type that its column's name stands for, whatever the name's case.

In a column of booleans a number counts as true if it is not zero. It is looked at as the nearest
double, which is zero for the smallest numbers, and a number beyond the doubles counts as false. So
a number other than zero counts as true exactly if it rounds to a finite double other than zero.
-/

namespace SeriesSql.Cell

open ColumnType (ofWireName?)
open Document (WrittenNumber)

theorem decode_eq_mapError {cell : Json} {wire : String} {type : ColumnType}
    (htype : ofWireName? wire = some type) (hcell : cell ≠ .null) :
    decode cell wire = (ofType type cell).mapError (.decode cell wire) := by
  rw [decode.eq_def, htype]
  cases cell with
  | null => exact absurd rfl hcell
  | _ => rfl

theorem decode_of_type {cell : Json} {wire : String} {type : ColumnType} {value : Value}
    (htype : ofWireName? wire = some type) (hcell : cell ≠ .null)
    (h : ofType type cell = .ok value) : decode cell wire = .ok value := by
  rw [decode_eq_mapError htype hcell, h]
  rfl

/-! ### Which numbers are true -/

theorem truth_number (number : WrittenNumber) :
    truth (.number number.text) = true ↔
      2 ^ (-1075 : ℤ) < |number.value| ∧ |number.value| < 2 ^ 1024 - 2 ^ 970 := by
  rw [← number.value_decimal, ← Double.ofDecimal_nonzero_iff, truth, double?, number.decimal?_text,
    Option.map_some, Option.filter_some]
  cases (Double.ofDecimal number.decimal).isFinite <;> simp

/-- A number in a column of booleans is always decoded, and is true exactly if it is large enough to
round to a double other than zero and small enough to round to a finite one. Every other number is
false: zero, and those that lie beyond the doubles on either side. -/
theorem number_truth_iff {wire : String} (hwire : ofWireName? wire = some .boolean)
    (number : WrittenNumber) :
    (decode (.number number.text) wire = .ok (.bool true) ↔
        2 ^ (-1075 : ℤ) < |number.value| ∧ |number.value| < 2 ^ 1024 - 2 ^ 970) ∧
      (decode (.number number.text) wire = .ok (.bool false) ↔
        |number.value| ≤ 2 ^ (-1075 : ℤ) ∨ 2 ^ 1024 - 2 ^ 970 ≤ |number.value|) := by
  have hdecode : decode (.number number.text) wire = .ok (.bool (truth (.number number.text))) :=
    decode_of_type hwire nofun rfl
  have htruth := truth_number number
  rw [hdecode]
  constructor
  · rw [← htruth]
    simp
  · rw [← not_lt, ← not_lt, ← not_and_or, ← htruth]
    simp

def vast : WrittenNumber where
  negative := false
  whole := ['9']
  fraction := []
  exponent := some
    { letter := 'E'
      sign := none
      digits := ['4', '0', '0']
      letter_mem := .inr rfl
      sign_mem := nofun
      digits_spec := by simp [Numeral.Digits] }
  whole_spec := by simp [Numeral.Digits]
  whole_plain := .inl rfl
  fraction_spec := nofun

/-- A number beyond the doubles is false although it is not zero. -/
theorem number_truth_iff_vast :
    ofWireName? "BOOLEAN" = some .boolean ∧ vast.text = "9e+400" ∧ vast.value ≠ 0 ∧
      decode (.number vast.text) "BOOLEAN" = .ok (.bool false) := by
  have hwire : ofWireName? "BOOLEAN" = some .boolean := by decide
  have hvalue : vast.value = 9 * 10 ^ 400 := by
    have hexponent : vast.exponentValue = (400 : ℕ) := by decide
    have hwhole : Integer.ofDecimal vast.whole = 9 := by decide
    have hfraction : Integer.ofDecimal vast.fraction = 0 := by decide
    rw [WrittenNumber.value, hexponent, hwhole, hfraction, zpow_natCast]
    simp [vast]
  refine ⟨hwire, rfl, ?_, ((number_truth_iff hwire vast).2).2 (.inr ?_)⟩
  · rw [hvalue]
    positivity
  · rw [hvalue, abs_of_pos (by positivity)]
    exact BinaryFormat.infinite_le_ten_pow.trans (le_mul_of_one_le_left (by positivity) (by norm_num))

end SeriesSql.Cell
