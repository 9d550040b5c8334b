import Mathlib
import SeriesSql.Proofs.Check
import SeriesSql.Proofs.Number.Spaced
import SeriesSql.Proofs.Result.Cell

/-!
# Texts in columns of wide integers

A text in a column of wide integers is decoded to the integer that it denotes, and every other text
is an error. The texts that denote an integer are more than the plain ones. Underscores between the
digits are passed over, and a sign may also follow the prefix of a hexadecimal text.
-/

namespace SeriesSql.Cell

open ColumnType (ofWireName?)
open Integer (WideText PlainWideText)

theorem wideInteger_eq_ok_iff {radix : Nat} (hmax : radix ≤ 16) {fault : CellFault}
    {cs : List Char} {n : ℤ} :
    wideInteger radix fault cs = .ok (.bigInt n) ↔
      Integer.SignedDenote (Integer.SpacedDenote radix) cs n := by
  rw [← Integer.wide?_eq_some_iff hmax, wideInteger]
  cases Integer.wide? radix cs <;> simp

/-- A text with the prefix of a hexadecimal text denotes nothing but a hexadecimal integer. -/
theorem wideText_prefixed_iff {x : Char} (hx : x = 'x' ∨ x = 'X') {cs : List Char} {n : ℤ} :
    WideText ('0' :: x :: cs) n ↔ Integer.SignedDenote (Integer.SpacedDenote 16) cs n := by
  have hletter : (Integer.digitValue? x).filter (· < 10) = none ∧ x ≠ '_' := by
    rcases hx with rfl | rfl <;> decide
  constructor
  · intro h
    cases h with
    | decimal hcs =>
      cases hcs with
      | plain hcs =>
        have hkept : x ∈ ('0' :: x :: cs).filter (· != '_') := by simp [hletter.2]
        obtain ⟨d, hd⟩ := hcs.2.exists_digit x hkept
        rw [← Integer.digitValue?_filter_eq_some_iff (by decide), hletter.1] at hd
        cases hd
    | hex _ hcs => exact hcs
  · exact .hex hx

/-- A text without the prefix denotes nothing but a decimal integer. -/
theorem wideText_unprefixed_iff {cs : List Char} {n : ℤ}
    (hcs : ∀ x, x = 'x' ∨ x = 'X' → ∀ ds, cs ≠ '0' :: x :: ds) :
    WideText cs n ↔ Integer.SignedDenote (Integer.SpacedDenote 10) cs n := by
  constructor
  · intro h
    cases h with
    | decimal hdecimal => exact hdecimal
    | hex hx _ => exact absurd rfl (hcs _ hx _)
  · exact .decimal

theorem integer_string_eq_ok_iff {text : String} {n : ℤ} :
    integer (.string text) = .ok (.bigInt n) ↔ WideText (Text.trim text).toList n := by
  rw [integer]
  split
  · rename_i cs heq
    rw [heq, wideText_prefixed_iff (.inl rfl), wideInteger_eq_ok_iff le_rfl]
  · rename_i cs heq
    rw [heq, wideText_prefixed_iff (.inr rfl), wideInteger_eq_ok_iff le_rfl]
  · rename_i hlower hupper
    rw [wideText_unprefixed_iff, wideInteger_eq_ok_iff (by decide)]
    rintro x (rfl | rfl) ds heq
    · exact hlower ds heq
    · exact hupper ds heq

theorem wideInteger_ok_or_error (radix : Nat) (fault : CellFault) (cs : List Char) :
    (∃ n, wideInteger radix fault cs = .ok (.bigInt n)) ∨
      wideInteger radix fault cs = .error fault := by
  rw [wideInteger]
  cases Integer.wide? radix cs with
  | some n => exact .inl ⟨n, rfl⟩
  | none => exact .inr rfl

theorem integer_string_ok_or_error (text : String) :
    (∃ n, integer (.string text) = .ok (.bigInt n)) ∨
      ∃ fault, integer (.string text) = .error fault := by
  rw [integer]
  split <;> exact (wideInteger_ok_or_error _ _ _).imp_right fun h => ⟨_, h⟩

/-- A text in a column of wide integers is decoded exactly to the integer that it denotes, and is
otherwise an error that names the cell. The texts in plain form are the decoded ones in which
neither an underscore nor a sign stands after the first character. -/
theorem wide_integer_text_decode_iff {type : ColumnType} (htype : type = .long ∨ type = .long256)
    {wire : String} (hwire : ofWireName? wire = some type) (text : String) :
    (∀ n, decode (.string text) wire = .ok (.bigInt n) ↔ WideText (Text.trim text).toList n) ∧
      ((∃ n, decode (.string text) wire = .ok (.bigInt n)) ∨
        ∃ fault, decode (.string text) wire = .error (.decode (.string text) wire fault)) ∧
      ∀ n, PlainWideText (Text.trim text).toList n ↔
        decode (.string text) wire = .ok (.bigInt n) ∧
          ∀ c ∈ (Text.trim text).toList.tail, c ∉ Integer.marks := by
  have hinteger : ofType type (.string text) = integer (.string text) := by
    rcases htype with rfl | rfl <;> rfl
  have hcell : Json.string text ≠ .null := nofun
  have hdecode : decode (.string text) wire =
      (integer (.string text)).mapError (.decode (.string text) wire) := by
    rw [decode_eq_mapError hwire hcell, hinteger]
  have hvalue : ∀ n, decode (.string text) wire = .ok (.bigInt n) ↔
      WideText (Text.trim text).toList n := by
    intro n
    rw [hdecode, Check.mapError_eq_ok_iff, integer_string_eq_ok_iff]
  refine ⟨hvalue, ?_, fun n => ?_⟩
  · rcases integer_string_ok_or_error text with ⟨n, hn⟩ | ⟨fault, hfault⟩
    · exact .inl ⟨n, by rw [hdecode, hn]; rfl⟩
    · exact .inr ⟨fault, by rw [hdecode, hfault]; rfl⟩
  · rw [hvalue]
    exact Integer.plainWideText_iff

/-- An underscore between the digits and a sign after the prefix are passed over. -/
theorem wide_integer_text_decode_iff_lenient :
    ofWireName? "LONG" = some .long ∧ ofWireName? "LONG256" = some .long256 ∧
      decode (.string "1_000") "LONG" = .ok (.bigInt 1000) ∧
      decode (.string "0x-ff") "LONG256" = .ok (.bigInt (-255)) ∧
      (∀ n, ¬ PlainWideText "1_000".toList n) ∧ ∀ n, ¬ PlainWideText "0x-ff".toList n := by
  have hlong : ofWireName? "LONG" = some .long := by decide
  have hlong256 : ofWireName? "LONG256" = some .long256 := by decide
  have hspaced := wide_integer_text_decode_iff (.inl rfl) hlong "1_000"
  have hsigned := wide_integer_text_decode_iff (.inr rfl) hlong256 "0x-ff"
  have htrim : Text.trim "1_000" = "1_000" ∧ Text.trim "0x-ff" = "0x-ff" := by decide
  rw [htrim.1] at hspaced
  rw [htrim.2] at hsigned
  have hthousand : WideText "1_000".toList 1000 :=
    .decimal ((Integer.wide?_eq_some_iff (by decide)).1 (by decide))
  have hnegative : WideText "0x-ff".toList (-255) :=
    .hex (.inl rfl) ((Integer.wide?_eq_some_iff le_rfl).1 (by decide))
  refine ⟨hlong, hlong256, (hspaced.1 1000).2 hthousand, (hsigned.1 (-255)).2 hnegative,
    fun n h => ?_, fun n h => ?_⟩
  · exact ((hspaced.2.2 n).1 h).2 '_' (by decide) (by decide)
  · exact ((hsigned.2.2 n).1 h).2 '-' (by decide) (by decide)

end SeriesSql.Cell
