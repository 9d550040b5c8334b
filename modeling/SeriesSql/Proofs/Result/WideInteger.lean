import Mathlib
import SeriesSql.Proofs.Json.Document
import SeriesSql.Proofs.Result.Cell
import SeriesSql.Proofs.Sql.Literal

/-!
# Wide integers are exact

An integer of any size keeps every digit on its way from a response to a value and from a value to a
statement. In columns of 64-bit integers and of timestamps in nanoseconds it is its decimal digits,
in columns of 256-bit integers its hexadecimal digits in quotes.
-/

namespace SeriesSql

open ColumnType

/-! ### Integers in documents -/

/-- The digits of an integer are the text of a JSON number. -/
theorem Json.ofText?_int (n : Int) : Json.ofText? (toString n) = some (.number (toString n)) := by
  have htext : (Json.number (toString n)).toText = toString n := String.ofList_toList
  have hexact : Document.Exact (.number (toString n)) := .number (Document.isNumber_toString n)
  rw [Json.ofText?, ← htext, Document.ofText?_toText hexact, htext]
  rfl

theorem mem_toString_int {n : Int} {c : Char} (hc : c ∈ (toString n).toList) :
    c.isDigit ∨ c = '-' := by
  rw [Numeral.toList_intToString] at hc
  have hdigit := fun c => (Numeral.digits_toDigits n.natAbs).2 c
  split at hc
  · rcases List.mem_cons.1 hc with rfl | hc
    · exact .inr rfl
    · exact .inl (hdigit c hc)
  · exact .inl (hdigit c hc)

theorem Json.escapedChar_of_digit {c : Char} (hc : c.isDigit ∨ c = '-') : escapedChar c = [c] := by
  have hcode : ¬ c.toNat < 0x20 := by
    rcases hc with hc | rfl
    · have hcode := Numeral.toNat_of_isDigit hc
      omega
    · decide
  rw [escapedChar, if_neg hcode]
  all_goals
    rintro rfl
    revert hc
    decide

/-- The digits of an integer in quotes are the text of a JSON string. -/
theorem Json.ofText?_quotedInt (n : Int) :
    Json.ofText? ("\"" ++ toString n ++ "\"") = some (.string (toString n)) := by
  have hescape : (toString n).toList.flatMap escapedChar = (toString n).toList := by
    have hmap := List.flatMap_congr fun c hc => escapedChar_of_digit (mem_toString_int (n := n) hc)
    rw [hmap, List.flatMap_singleton']
  have htext : (Json.string (toString n)).toText = "\"" ++ toString n ++ "\"" := by
    apply String.toList_inj.1
    rw [Json.toText, Json.chars, Json.quotedChars, hescape, String.toList_ofList,
      String.toList_append, String.toList_append]
    rfl
  rw [Json.ofText?, ← htext, Document.ofText?_toText (.string _)]
  rfl

namespace Cell

theorem trim_toString_int (n : Int) : Text.trim (toString n) = toString n := by
  apply Text.trim_eq_self
  intro c hc
  rcases mem_toString_int hc with hc | rfl
  · exact Text.isBlank_of_isDigit hc
  · rfl

theorem wideInteger_toString (n : Int) (fault : CellFault) :
    wideInteger 10 fault (toString n).toList = .ok (.bigInt n) := by
  rw [wideInteger, Integer.wide?_toString]

theorem integer_number (n : Int) : integer (.number (toString n)) = .ok (.bigInt n) :=
  wideInteger_toString n _

theorem integer_string (n : Int) : integer (.string (toString n)) = .ok (.bigInt n) := by
  have hread := wideInteger_toString n .notInteger
  have hletter : ∀ c, ¬ c.isDigit → c ≠ '-' → ∀ cs, (toString n).toList ≠ '0' :: c :: cs := by
    intro c hdigit hminus cs heq
    rcases mem_toString_int (n := n) (heq ▸ List.mem_cons_of_mem _ List.mem_cons_self) with h | h
    · exact hdigit h
    · exact hminus h
  rw [integer, trim_toString_int]
  split
  · rename_i cs heq
    exact absurd heq (hletter 'x' (by decide) (by decide) cs)
  · rename_i cs heq
    exact absurd heq (hletter 'X' (by decide) (by decide) cs)
  · exact hread

theorem isIntegerText_toString (n : Int) : isIntegerText (toString n).toList := by
  have hdigits := Integer.digits?_toDigits n.natAbs
  rw [Numeral.toList_intToString]
  split
  · rw [isIntegerText, hdigits]
    rfl
  · rw [isIntegerText, hdigits]
    · rfl
    · intro cs heq
      have hmem := (Numeral.digits_toDigits n.natAbs).2 '-' (heq ▸ List.mem_cons_self)
      exact absurd hmem (by decide)

theorem nanoTimestamp_string (n : Int) :
    nanoTimestamp (.string (toString n)) = .ok (.bigInt n) := by
  rw [nanoTimestamp, if_pos (isIntegerText_toString n)]
  exact wideInteger_toString n _

/-- Both forms of the decimal digits decode to the integer. -/
theorem ofType_wide {type : ColumnType} (htype : type ∈ [long, long256, timestampNs]) (n : Int) :
    ofType type (.number (toString n)) = .ok (.bigInt n) ∧
      ofType type (.string (toString n)) = .ok (.bigInt n) := by
  simp only [List.mem_cons, List.not_mem_nil, or_false] at htype
  rcases htype with rfl | rfl | rfl
  · exact ⟨integer_number n, integer_string n⟩
  · exact ⟨integer_number n, integer_string n⟩
  · exact ⟨wideInteger_toString n _, nanoTimestamp_string n⟩

theorem integer_hex (n : Nat) :
    integer (.string (String.ofList ('0' :: 'x' :: Integer.hex n))) = .ok (.bigInt n) := by
  have htrim : Text.trim (String.ofList ('0' :: 'x' :: Integer.hex n)) =
      String.ofList ('0' :: 'x' :: Integer.hex n) := by
    apply Text.trim_eq_self
    rw [String.toList_ofList, List.forall_mem_cons, List.forall_mem_cons]
    refine ⟨rfl, rfl, fun c hc => Text.isBlank_of_digitValue? ?_⟩
    by_contra hnone
    rw [Option.not_isSome_iff_eq_none] at hnone
    exact Integer.not_mem_toDigits_of_digitValue?_eq_none (by decide) (by decide) hnone n hc
  rw [integer, htrim, String.toList_ofList]
  simp only [wideInteger, Integer.wide?_hex]

end Cell

namespace Literal

theorem ofLong256_bigInt (n : Int) :
    ofValue (.bigInt n) .long256 =
      if n < 0 then .error (.literal (.bigInt n) .long256 .negativeLong256)
      else .ok (Token.quoted (String.ofList ('0' :: 'x' :: Integer.hex n.natAbs))) := by
  change blame _ _ (ofLong256 _) = _
  rw [ofLong256]
  split <;> rfl

end Literal

/-- An integer of any size is read exactly from its digits, as a number or as a text, and written
exactly. A column of unsigned integers has a literal for it unless it is negative; the text in the
quotes of the literal decodes to the integer again. -/
theorem wide_integers_exact (n : Int) :
    Json.ofText? (toString n) = some (.number (toString n)) ∧
      Json.ofText? ("\"" ++ toString n ++ "\"") = some (.string (toString n)) ∧
      (∀ type ∈ [long, long256, timestampNs], ∀ wire, ofWireName? wire = some type →
        Cell.decode (.number (toString n)) wire = .ok (.bigInt n) ∧
          Cell.decode (.string (toString n)) wire = .ok (.bigInt n)) ∧
      (∀ type ∈ [long, timestampNs], Literal.ofValue (.bigInt n) type = .ok (toString n)) ∧
      ((∃ text, Literal.ofValue (.bigInt n) long256 = .ok text) ↔ 0 ≤ n) ∧
      ∀ text, Literal.ofValue (.bigInt n) long256 = .ok text →
        ∃ digits, Lexeme.read? text.toList = some (.text ('0' :: 'x' :: digits), []) ∧
          ∀ wire, ofWireName? wire = some long256 →
            Cell.decode (.string (String.ofList ('0' :: 'x' :: digits))) wire =
              .ok (.bigInt n) := by
  refine ⟨Json.ofText?_int n, Json.ofText?_quotedInt n, ?_, ?_, ?_, ?_⟩
  · intro type htype wire hwire
    obtain ⟨hnumber, hstring⟩ := Cell.ofType_wide htype n
    exact ⟨Cell.decode_of_type hwire nofun hnumber, Cell.decode_of_type hwire nofun hstring⟩
  · intro type htype
    simp only [List.mem_cons, List.not_mem_nil, or_false] at htype
    rcases htype with rfl | rfl <;> rfl
  · rw [Literal.ofLong256_bigInt]
    split
    · simp
      omega
    · simp
      omega
  · intro text htext
    rw [Literal.ofLong256_bigInt] at htext
    split at htext
    · cases htext
    · rename_i hn
      obtain rfl := Except.ok.inj htext
      refine ⟨Integer.hex n.natAbs, ?_, fun wire hwire => ?_⟩
      · rw [Literal.read?_quoted, String.toList_ofList]
      · have hread := Cell.integer_hex n.natAbs
        rw [Int.natAbs_of_nonneg (by omega)] at hread
        exact Cell.decode_of_type hwire nofun hread

/-- An integer of more than 64 bits in a column of unsigned integers. -/
theorem wide_integers_exact_beyond_words :
    ofWireName? "long256" = some long256 ∧
      Cell.decode (.string (toString (2 ^ 80 + 1 : Int))) "long256" = .ok (.bigInt (2 ^ 80 + 1)) ∧
      ∃ text digits, Literal.ofValue (.bigInt (2 ^ 80 + 1)) long256 = .ok text ∧
        Cell.decode (.string (String.ofList ('0' :: 'x' :: digits))) "long256" =
          .ok (.bigInt (2 ^ 80 + 1)) := by
  have hwire : ofWireName? "long256" = some long256 := by decide
  obtain ⟨-, -, hdecode, -, hliteral, hdigits⟩ := wide_integers_exact (2 ^ 80 + 1)
  obtain ⟨text, htext⟩ := hliteral.2 (by decide)
  obtain ⟨digits, -, hback⟩ := hdigits text htext
  exact ⟨hwire, (hdecode long256 (by decide) "long256" hwire).2, text, digits, htext,
    hback "long256" hwire⟩

end SeriesSql
