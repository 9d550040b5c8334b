import Mathlib
import SeriesSql.Proofs.Check
import SeriesSql.Proofs.Json.Written
import SeriesSql.Proofs.Number.Spaced
import SeriesSql.Proofs.Result.SmallInteger
import SeriesSql.Proofs.Time.Iso

/-!
# Numbers in quotes

A cell may hold a number or a text of the same characters, and the columns of numbers take both.
Numbers and texts have readers of their own. Those of wide integers accept the same characters. The
reader of texts of small integers wants digits only, where a number may have a fraction or an
exponent, and the one of texts of doubles also gives the infinity that a large number is rounded to.
-/

namespace SeriesSql

open ColumnType (ofWireName?)

namespace Double

/-- A text that starts with a digit is no name, so it is read as a decimal number. -/
theorem ofText?_of_digit {c : Char} (hc : c.isDigit) (cs : List Char) :
    ofText? (c :: cs) = (Decimal.ofText? (c :: cs)).map ofDecimal ∧
      ofText? ('-' :: c :: cs) = (Decimal.ofText? ('-' :: c :: cs)).map ofDecimal := by
  have hword : ∀ word : String, (word.toList.head?.any fun c => !c.isDigit) →
      String.ofList ((c :: cs).map Char.toLower) ≠ word := by
    rintro _ hhead rfl
    simp [Numeral.toLower_of_isDigit hc, hc] at hhead
  have hsign : ∀ {sign : Char}, sign.isDigit = false → ∀ ds, c :: cs ≠ sign :: ds := by
    rintro sign hnot ds heq
    rw [(List.cons.inj heq).1, hnot] at hc
    cases hc
  have hnan := hword "nan" rfl
  have hinf := hword "inf" rfl
  have hinfinity := hword "infinity" rfl
  constructor
  · rw [ofText?, ofTextWith?]
    · split
      · exact absurd ‹_› hnan
      · exact absurd ‹_› hinf
      · exact absurd ‹_› hinfinity
      · rfl
    · exact hsign rfl
    · exact hsign rfl
  · rw [ofText?, ofTextWith?]
    split
    · exact absurd ‹_› hnan
    · exact absurd ‹_› hinf
    · exact absurd ‹_› hinfinity
    · rfl

end Double

namespace Document.WrittenNumber

def cell (n : WrittenNumber) : Json :=
  .number n.text

def quoted (n : WrittenNumber) : Json :=
  .string (String.ofList n.chars)

variable (n : WrittenNumber)

theorem cell_ne_null : n.cell ≠ .null :=
  nofun

theorem quoted_ne_null : n.quoted ≠ .null :=
  nofun

theorem trim_chars : Text.trim (String.ofList n.chars) = String.ofList n.chars := by
  have hmarks : ['-', '+', '.', 'e', 'E'].all fun c => !Text.isBlank c := by decide
  apply Text.trim_eq_self
  rw [String.toList_ofList]
  intro c hc
  rcases n.mem_chars hc with hdigit | hmark
  · exact Text.isBlank_of_isDigit hdigit
  · simpa using List.all_eq_true.1 hmarks c hmark

/-- A number that is not written as an integer denotes none. -/
theorem exists_not_mem (h : ¬ n.IsWhole) : ∃ c ∈ n.chars, ¬ (c.isDigit ∨ c ∈ Integer.marks) := by
  obtain ⟨c, hc, rfl | rfl | rfl⟩ := n.exists_mark h <;> exact ⟨_, hc, by decide⟩

/-- The characters of a number denote an integer exactly if they are written as one. -/
theorem denotes_chars_iff {m : ℤ} : Integer.Denotes n.chars m ↔ n.IsWhole ∧ n.value = m := by
  constructor
  · intro h
    have hwhole : n.IsWhole := by
      by_contra hwhole
      obtain ⟨c, hc, hnot⟩ := n.exists_not_mem hwhole
      exact hnot (h.mem hc)
    obtain ⟨k, hk, hvalue⟩ := n.exists_denotes hwhole
    exact ⟨hwhole, h.unique hk ▸ hvalue⟩
  · rintro ⟨hwhole, hvalue⟩
    obtain ⟨k, hk, hvalue'⟩ := n.exists_denotes hwhole
    rw [hvalue, Int.cast_inj] at hvalue'
    exact hvalue' ▸ hk

theorem wide?_chars (h : ¬ n.IsWhole) : Integer.wide? 10 n.chars = none := by
  rw [Option.eq_none_iff_forall_ne_some]
  intro m hm
  obtain ⟨c, hc, hnot⟩ := n.exists_not_mem h
  exact hnot (((Integer.wide?_eq_some_iff (by decide)).1 hm).mem hc)

/-- The text that a reader keeps is the same wide integer, if it is one. -/
theorem wide?_text : Integer.wide? 10 n.text.toList = Integer.wide? 10 n.chars := by
  by_cases h : n.IsWhole
  · rw [n.text_of_isWhole h, String.toList_ofList]
  · rw [text, String.toList_ofList, n.wide?_chars h, n.kept.wide?_chars (mt n.isWhole_kept.1 h)]

theorem double_chars : Double.ofText? n.chars = some (Double.ofDecimal n.decimal) := by
  obtain ⟨c, cs, hmagnitude, hc⟩ := n.exists_digit_magnitude
  have hread := n.decimal?_chars
  rw [chars, hmagnitude] at hread ⊢
  split
  · rename_i hnegative
    rw [if_pos hnegative] at hread
    rw [(Double.ofText?_of_digit hc cs).2, hread, Option.map_some]
  · rename_i hnegative
    rw [if_neg hnegative] at hread
    rw [(Double.ofText?_of_digit hc cs).1, hread, Option.map_some]

end Document.WrittenNumber

namespace Cell

open Document (WrittenNumber)

variable (n : WrittenNumber)

theorem integer_quoted : integer n.quoted = integer n.cell := by
  -- A number has no letter that could start a hexadecimal text.
  have hletter : ∀ x, x = 'x' ∨ x = 'X' → ∀ cs, n.chars ≠ '0' :: x :: cs := by
    intro x hx cs heq
    have hmem : x ∈ n.chars := heq ▸ List.mem_cons_of_mem _ List.mem_cons_self
    have hnot := n.mem_chars hmem
    revert hnot
    rcases hx with rfl | rfl <;> decide
  have hnumber : integer n.cell = wideInteger 10 .notInteger n.chars := by
    rw [WrittenNumber.cell, integer, wideInteger, wideInteger, n.wide?_text]
  rw [hnumber, WrittenNumber.quoted, integer, n.trim_chars, String.toList_ofList]
  split
  · rename_i cs heq
    exact absurd heq (hletter 'x' (.inl rfl) cs)
  · rename_i cs heq
    exact absurd heq (hletter 'X' (.inr rfl) cs)
  · rfl

theorem isIntegerText_iff {cs : List Char} :
    isIntegerText cs ↔ Numeral.Digits cs ∨ ∃ ds, Numeral.Digits ds ∧ cs = '-' :: ds := by
  have hdigits : ∀ ds, (Integer.digits? ds).isSome ↔ Numeral.Digits ds := by
    intro ds
    rw [Option.isSome_iff_exists]
    simp only [Integer.digits?_eq_some_iff, exists_and_left, exists_eq, and_true]
  rw [isIntegerText.eq_def]
  split
  · rename_i ds
    rw [hdigits]
    constructor
    · exact fun hds => .inr ⟨ds, hds, rfl⟩
    · rintro (hds | ⟨_, hds, heq⟩)
      · exact absurd hds (Integer.not_digits_cons rfl ds)
      · exact (List.cons.inj heq).2 ▸ hds
  · rename_i hne
    rw [hdigits]
    refine ⟨.inl, ?_⟩
    rintro (hds | ⟨ds, -, heq⟩)
    · exact hds
    · exact absurd heq (hne ds)

theorem isIntegerText_chars_iff : isIntegerText n.chars ↔ n.IsWhole := by
  rw [isIntegerText_iff]
  constructor
  · intro h
    by_contra hwhole
    rcases h with hds | ⟨ds, hds, heq⟩
    · exact hwhole (n.denotes_chars_iff.1 (.plain hds)).1
    · exact hwhole (n.denotes_chars_iff.1 (heq ▸ Integer.Denotes.minus hds)).1
  · intro h
    rw [n.chars_of_isWhole h]
    split
    · exact .inr ⟨n.whole, n.whole_spec, rfl⟩
    · exact .inl n.whole_spec

/-- A number is no timestamp. -/
theorem timestamp_quoted (ticksPerSecond : Nat) :
    timestamp ticksPerSecond n.quoted = .error .notTimestamp := by
  have hnone : Timestamp.ofText? (String.ofList n.chars) = none := by
    rw [Option.eq_none_iff_forall_ne_some]
    intro t ht
    have hcolon := Timestamp.colon_mem_of_ofText? ht
    rw [String.toList_ofList] at hcolon
    exact absurd (n.mem_chars hcolon) (by decide)
  rw [WrittenNumber.quoted, timestamp, hnone]

theorem nanoTimestamp_quoted_eq_ok_iff {value : Value} :
    nanoTimestamp n.quoted = .ok value ↔ nanoTimestamp n.cell = .ok value := by
  have hnumber : nanoTimestamp n.cell = wideInteger 10 .notInteger n.chars := by
    rw [WrittenNumber.cell, nanoTimestamp, wideInteger, wideInteger, n.wide?_text]
  rw [hnumber, WrittenNumber.quoted, nanoTimestamp, String.toList_ofList]
  split
  · rfl
  · rename_i hinteger
    rw [isIntegerText_chars_iff] at hinteger
    rw [← WrittenNumber.quoted, timestamp_quoted, wideInteger, n.wide?_chars hinteger]
    exact iff_of_false nofun nofun

theorem double_quoted :
    double n.quoted = .ok (.float (Double.ofDecimal n.decimal)) := by
  rw [WrittenNumber.quoted, double, anyDouble?, n.trim_chars, String.toList_ofList, n.double_chars]

theorem double_number :
    double n.cell =
      if |n.value| < 2 ^ 1024 - 2 ^ 970 then .ok (.float (Double.ofDecimal n.decimal))
      else .error .notNumber := by
  rw [WrittenNumber.cell, double, anyDouble?, double?, n.decimal?_text, Option.map_some,
    Option.filter_some, ← n.value_decimal]
  simp only [← Double.isFinite_ofDecimal_iff]
  cases (Double.ofDecimal n.decimal).isFinite <;> rfl

theorem ofType_double {type : ColumnType} (htype : type = .float ∨ type = .double) (cell : Json) :
    ofType type cell = double cell := by
  rcases htype with rfl | rfl <;> rfl

/-- A number and the text of its characters are decoded to the same value, or neither is decoded. -/
def QuotesAlike (wire : String) : Prop :=
  ∀ value, decode n.quoted wire = .ok value ↔ decode n.cell wire = .ok value

section Column

variable {n} {type : ColumnType} {wire : String} (hwire : ofWireName? wire = some type)
include hwire

theorem decode_eq_ok_iff {cell : Json} (hcell : cell ≠ .null) {value : Value} :
    decode cell wire = .ok value ↔ ofType type cell = .ok value := by
  rw [decode_eq_mapError hwire hcell, Check.mapError_eq_ok_iff]

theorem quotesAlike_iff :
    QuotesAlike n wire ↔
      ∀ value, ofType type n.quoted = .ok value ↔ ofType type n.cell = .ok value := by
  refine forall_congr' fun value => ?_
  rw [decode_eq_ok_iff hwire n.quoted_ne_null, decode_eq_ok_iff hwire n.cell_ne_null]

theorem quotesAlike_of_wide (htype : type = .long ∨ type = .long256 ∨ type = .timestampNs) :
    QuotesAlike n wire := by
  rw [quotesAlike_iff hwire]
  intro value
  rcases htype with rfl | rfl | rfl
  · rw [ofType, ofType, integer_quoted]
  · rw [ofType, ofType, integer_quoted]
  · exact nanoTimestamp_quoted_eq_ok_iff n

theorem decode_double_number (htype : type = .float ∨ type = .double)
    (hlarge : ¬ |n.value| < 2 ^ 1024 - 2 ^ 970) :
    decode n.cell wire = .error (.decode n.cell wire .notNumber) := by
  rw [decode_eq_mapError hwire n.cell_ne_null, ofType_double htype, double_number, if_neg hlarge]
  rfl

theorem decode_double_quoted (htype : type = .float ∨ type = .double) :
    decode n.quoted wire = .ok (.float (Double.ofDecimal n.decimal)) := by
  rw [decode_eq_ok_iff hwire n.quoted_ne_null, ofType_double htype, double_quoted]

theorem quotesAlike_double_iff (htype : type = .float ∨ type = .double) :
    QuotesAlike n wire ↔ |n.value| < 2 ^ 1024 - 2 ^ 970 := by
  constructor
  · intro h
    by_contra hlarge
    have hdecode := (h _).1 (decode_double_quoted hwire htype)
    rw [decode_double_number hwire htype hlarge] at hdecode
    cases hdecode
  · intro hsmall
    rw [quotesAlike_iff hwire]
    intro value
    rw [ofType_double htype, ofType_double htype, double_quoted, double_number, if_pos hsmall]

variable {lo hi : ℤ} (htype : smallRange? type = some (lo, hi))
include htype

theorem decode_small_number_iff {k : Int64} :
    decode n.cell wire = .ok (.int k) ↔
      lo ≤ k.toInt ∧ k.toInt ≤ hi ∧ Double.NoneNearer n.value k.toInt := by
  have hrange := smallRange?_bounds htype
  rw [decode_small_eq_ok_iff htype hwire n.cell_ne_null]
  refine and_congr_right fun hlo => and_congr_right fun hhi => ?_
  exact smallInteger?_number_eq_some_iff n (by omega)

theorem exists_int_of_decode_small {cell : Json} (hcell : cell ≠ .null) {value : Value}
    (h : decode cell wire = .ok value) : ∃ k, value = .int k := by
  rcases decode_small_ok_or_error htype hwire hcell with ⟨k, hk⟩ | ⟨fault, hfault⟩
  · rw [hk] at h
    exact ⟨k, (Except.ok.inj h).symm⟩
  · rw [hfault] at h
    cases h

theorem decode_small_near {k : ℤ} (hlo : lo ≤ k) (hhi : k ≤ hi)
    (hnear : Double.NoneNearer n.value k) : decode n.cell wire = .ok (.int (Int64.ofInt k)) := by
  have hrange := smallRange?_bounds htype
  have hword : (Int64.ofInt k).toInt = k := Int64.toInt_ofInt_of_le (by omega) (by omega)
  rw [decode_small_number_iff hwire htype, hword]
  exact ⟨hlo, hhi, hnear⟩

/-- A text is taken for a small integer only if it is written as one. -/
theorem decode_small_quoted_iff {k : Int64} :
    decode n.quoted wire = .ok (.int k) ↔ n.IsWhole ∧ decode n.cell wire = .ok (.int k) := by
  have hrange := smallRange?_bounds htype
  have hread : lo ≤ k.toInt → k.toInt ≤ hi →
      (smallInteger? n.quoted = some k.toInt ↔ n.IsWhole ∧ Double.NoneNearer n.value k.toInt) := by
    intro hlo hhi
    rw [WrittenNumber.quoted, smallInteger?_string_eq_some_iff _ (by omega), n.trim_chars,
      String.toList_ofList, n.denotes_chars_iff]
    refine and_congr_right fun hwhole => ?_
    obtain ⟨m, -, hm⟩ := n.exists_denotes hwhole
    rw [hm, Double.noneNearer_int_iff (by omega), Int.cast_inj]
  rw [decode_small_eq_ok_iff htype hwire n.quoted_ne_null, decode_small_number_iff hwire htype]
  constructor
  · rintro ⟨hlo, hhi, hquoted⟩
    obtain ⟨hwhole, hnear⟩ := (hread hlo hhi).1 hquoted
    exact ⟨hwhole, hlo, hhi, hnear⟩
  · rintro ⟨hwhole, hlo, hhi, hnear⟩
    exact ⟨hlo, hhi, (hread hlo hhi).2 ⟨hwhole, hnear⟩⟩

/-- A number written with a fraction or an exponent is never decoded in quotes, so the quotes make
no difference only where it is not decoded without them. -/
theorem quotesAlike_small_iff :
    QuotesAlike n wire ↔
      n.IsWhole ∨ ∀ k : ℤ, lo ≤ k → k ≤ hi → ¬ Double.NoneNearer n.value k := by
  constructor
  · intro h
    refine or_iff_not_imp_left.2 fun hwhole k hlo hhi hnear => ?_
    have hnumber := decode_small_near hwire htype hlo hhi hnear
    exact hwhole ((decode_small_quoted_iff hwire htype).1 ((h _).2 hnumber)).1
  · intro h value
    constructor
    · intro hquoted
      obtain ⟨k, rfl⟩ := exists_int_of_decode_small hwire htype n.quoted_ne_null hquoted
      exact ((decode_small_quoted_iff hwire htype).1 hquoted).2
    · intro hnumber
      obtain ⟨k, rfl⟩ := exists_int_of_decode_small hwire htype n.cell_ne_null hnumber
      obtain ⟨hlo, hhi, hnear⟩ := (decode_small_number_iff hwire htype).1 hnumber
      have hwhole := h.resolve_right fun hnone => hnone _ hlo hhi hnear
      exact (decode_small_quoted_iff hwire htype).2 ⟨hwhole, hnumber⟩

end Column

/-- Quotes around a number change nothing in a column of wide integers or of nanoseconds. In a
column of doubles they do exactly if the number is rounded to an infinity, which only a text may
denote. In a column of small integers they do exactly if the number is written with a fraction or an
exponent and no double is nearer to it than an integer in the range of the column: the number is
decoded to this integer, and the text is an error. -/
theorem quotes_alike_iff (n : WrittenNumber) {type : ColumnType} {wire : String}
    (hwire : ofWireName? wire = some type) :
    Json.ofText? (String.ofList n.chars) = some n.cell ∧
      (type = .long ∨ type = .long256 ∨ type = .timestampNs → QuotesAlike n wire) ∧
      (type = .float ∨ type = .double →
        (QuotesAlike n wire ↔ |n.value| < 2 ^ 1024 - 2 ^ 970) ∧
          (¬ QuotesAlike n wire →
            decode n.quoted wire = .ok (.float (.infinite n.negative)) ∧
              decode n.cell wire = .error (.decode n.cell wire .notNumber))) ∧
      ∀ lo hi, smallRange? type = some (lo, hi) →
        (QuotesAlike n wire ↔
            n.IsWhole ∨ ∀ k : ℤ, lo ≤ k → k ≤ hi → ¬ Double.NoneNearer n.value k) ∧
          (¬ QuotesAlike n wire →
            (∃ k, decode n.cell wire = .ok (.int k)) ∧
              ∃ fault, decode n.quoted wire = .error (.decode n.quoted wire fault)) := by
  refine ⟨n.ofText?_chars, quotesAlike_of_wide hwire, fun htype =>
    ⟨quotesAlike_double_iff hwire htype, fun hne => ?_⟩, fun lo hi htype =>
    ⟨quotesAlike_small_iff hwire htype, fun hne => ?_⟩⟩
  · have hlarge := mt (quotesAlike_double_iff hwire htype).2 hne
    have hinfinite : ¬ (Double.ofDecimal n.decimal).isFinite := by
      rwa [Double.isFinite_ofDecimal_iff, n.value_decimal]
    rw [decode_double_quoted hwire htype, Double.ofDecimal_of_not_isFinite hinfinite]
    exact ⟨rfl, decode_double_number hwire htype hlarge⟩
  · rw [quotesAlike_small_iff hwire htype, not_or] at hne
    obtain ⟨hwhole, hnear⟩ := hne
    constructor
    · rcases decode_small_ok_or_error htype hwire n.cell_ne_null with hok | ⟨fault, hfault⟩
      · exact hok
      · refine absurd (fun k hlo hhi hk => ?_) hnear
        rw [decode_small_near hwire htype hlo hhi hk] at hfault
        cases hfault
    · rcases decode_small_ok_or_error htype hwire n.quoted_ne_null with ⟨k, hk⟩ | herror
      · exact absurd ((decode_small_quoted_iff hwire htype).1 hk).1 hwhole
      · exact herror

def threePointZero : WrittenNumber where
  negative := false
  whole := ['3']
  fraction := ['0']
  exponent := none
  whole_spec := by simp [Numeral.Digits]
  whole_plain := by decide
  fraction_spec := by simp

/-- It is a small integer, unless it is in quotes. -/
theorem quotes_alike_iff_threePointZero :
    ofWireName? "BYTE" = some .byte ∧ threePointZero.quoted = .string "3.0" ∧
      threePointZero.cell = .number "3.0" ∧ ¬ QuotesAlike threePointZero "BYTE" ∧
      ∃ fault, decode (.string "3.0") "BYTE" = .error (.decode (.string "3.0") "BYTE" fault) := by
  have hwire : ofWireName? "BYTE" = some .byte := by decide
  have hsmall := (quotes_alike_iff threePointZero hwire).2.2.2 (-2 ^ 7) (2 ^ 7 - 1) rfl
  have hvalue : threePointZero.value = (3 : ℤ) := by
    have hwhole : Integer.ofDecimal threePointZero.whole = 3 := by decide
    have hfraction : Integer.ofDecimal threePointZero.fraction = 0 := by decide
    rw [WrittenNumber.value, hwhole, hfraction]
    norm_num [threePointZero, WrittenNumber.exponentValue]
  have hunlike : ¬ QuotesAlike threePointZero "BYTE" := by
    rw [hsmall.1, not_or]
    refine ⟨by simp [WrittenNumber.IsWhole, threePointZero], fun h => ?_⟩
    refine h 3 (by decide) (by decide) ?_
    rw [hvalue, Double.noneNearer_int_iff (by decide)]
  exact ⟨hwire, rfl, rfl, hunlike, (hsmall.2 hunlike).2⟩

end Cell
end SeriesSql
