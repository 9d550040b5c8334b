import Mathlib
import SeriesSql.Proofs.Result.WideInteger

/-!
# Literals of the same integer

An integer of 64 bits is a value in two ways, as a narrow integer and as a wide one. The literals of
the two are compared by what a column makes of them: outside columns of 256-bit integers they have
the same characters, and in these columns one has decimal digits and the other hexadecimal ones, so
it is the decoded integers that are compared.
-/

namespace SeriesSql.Literal

open ColumnType (ofWireName?)

/-- The literal is a text in quotes that a column of 256-bit integers decodes to the integer. -/
def DenotesLong256 (text : String) (n : ℤ) : Prop :=
  ∃ body, Lexeme.read? text.toList = some (.text body, []) ∧
    ∀ wire, ofWireName? wire = some .long256 →
      Cell.decode (.string (String.ofList body)) wire = .ok (.bigInt n)

inductive SameMeaning (type : ColumnType) : String → String → Prop
  | text (text : String) : SameMeaning type text text
  | long256 {text text' : String} {n : ℤ} (htype : type = .long256) (h : DenotesLong256 text n)
      (h' : DenotesLong256 text' n) : SameMeaning type text text'

/-- Both values have no literal in a column of the type, or both have literals that stand for the
same value. -/
def Agree (type : ColumnType) : Except SqlError String → Except SqlError String → Prop
  | .ok text, .ok text' => SameMeaning type text text'
  | .error _, .error _ => True
  | _, _ => False

theorem denotesLong256_quoted {body : String} {n : ℤ}
    (h : Cell.integer (.string body) = .ok (.bigInt n)) :
    DenotesLong256 (Token.quoted body) n := by
  refine ⟨body.toList, read?_quoted body, fun wire hwire => ?_⟩
  rw [String.ofList_toList]
  exact Cell.decode_of_type hwire nofun h

theorem ofLong256_int (n : Int64) :
    ofValue (.int n) .long256 = .ok (Token.quoted (toString n.toInt)) :=
  rfl

/-- The decimal digits of an integer denote it, with or without a sign. -/
theorem denotesLong256_int (n : ℤ) : DenotesLong256 (Token.quoted (toString n)) n :=
  denotesLong256_quoted (Cell.integer_string n)

theorem denotesLong256_hex {n : ℤ} (hn : 0 ≤ n) :
    DenotesLong256 (Token.quoted (String.ofList ('0' :: 'x' :: Integer.hex n.natAbs))) n := by
  have hread := Cell.integer_hex n.natAbs
  rw [Int.natAbs_of_nonneg hn] at hread
  exact denotesLong256_quoted hread

theorem agree_long256_iff (n : Int64) :
    Agree .long256 (ofValue (.int n) .long256) (ofValue (.bigInt n.toInt) .long256) ↔
      0 ≤ n.toInt := by
  rw [ofLong256_int, ofLong256_bigInt]
  split
  · rename_i hneg
    exact iff_of_false id (by omega)
  · rename_i hnonneg
    have hn := not_lt.1 hnonneg
    exact iff_of_true (.long256 rfl (denotesLong256_int n.toInt) (denotesLong256_hex hn)) hn

/-- Outside columns of 256-bit integers no literal depends on the width of an integer. -/
theorem agree_of_ne_long256 (n : Int64) {type : ColumnType} (htype : type ≠ .long256) :
    Agree type (ofValue (.int n) type) (ofValue (.bigInt n.toInt) type) := by
  cases type with
  | boolean | geohash | array | binary => exact trivial
  | long256 => exact absurd rfl htype
  | _ => exact .text _

theorem ofValue_int_iff (n : Int64) (type : ColumnType) :
    (∃ text, ofValue (.int n) type = .ok text) ↔ type ∉ [.boolean, .geohash, .array, .binary] := by
  cases type with
  | boolean | geohash | array | binary => exact iff_of_false nofun (by decide)
  | _ => exact iff_of_true ⟨_, rfl⟩ (by decide)

/-- A narrow integer and the wide one of the same size agree in every column, unless it is a
negative one in a column of unsigned 256-bit integers: there the wide integer is refused as negative,
and the narrow one has a literal all the same, which denotes the negative integer. -/
theorem integer_literals_agree_iff (n : Int64) (type : ColumnType) :
    (Agree type (ofValue (.int n) type) (ofValue (.bigInt n.toInt) type) ↔
        (type = .long256 → 0 ≤ n.toInt)) ∧
      ((∃ text, ofValue (.int n) type = .ok text) ↔
        type ∉ [.boolean, .geohash, .array, .binary]) ∧
      (type = .long256 → n.toInt < 0 →
        ofValue (.bigInt n.toInt) type =
            .error (.literal (.bigInt n.toInt) type .negativeLong256) ∧
          ∃ text, ofValue (.int n) type = .ok text ∧ DenotesLong256 text n.toInt) := by
  refine ⟨?_, ofValue_int_iff n type, ?_⟩
  · rcases eq_or_ne type .long256 with rfl | htype
    · rw [agree_long256_iff, imp_iff_right rfl]
    · exact iff_of_true (agree_of_ne_long256 n htype) fun h => absurd h htype
  · rintro rfl hneg
    constructor
    · rw [ofLong256_bigInt, if_pos hneg]
    · exact ⟨_, ofLong256_int n, denotesLong256_int n.toInt⟩

/-- Minus one is a literal of unsigned integers only as a narrow integer. -/
theorem integer_literals_agree_iff_minusOne :
    ¬ Agree .long256 (ofValue (.int (-1)) .long256) (ofValue (.bigInt (-1)) .long256) ∧
      ofValue (.bigInt (-1)) .long256 =
        .error (.literal (.bigInt (-1)) .long256 .negativeLong256) ∧
      ofValue (.int (-1)) .long256 = .ok "'-1'" := by
  have hword : (-1 : Int64).toInt = -1 := by decide
  have hliterals := integer_literals_agree_iff (-1) .long256
  rw [hword] at hliterals
  obtain ⟨hagree, -, hneg⟩ := hliterals
  refine ⟨fun h => ?_, (hneg rfl (by decide)).1, ?_⟩
  · exact absurd (hagree.1 h rfl) (by decide)
  · have htext : Token.quoted (toString (-1 : ℤ)) = "'-1'" := by decide
    rw [ofLong256_int, hword, htext]

end SeriesSql.Literal
