import Mathlib
import SeriesSql.Proofs.Check
import SeriesSql.Proofs.Sql.Lexeme

/-!
# Literals are single lexemes

Whatever the value, its literal is one lexeme, of a kind that the column's type allows, and a
reader stops exactly where it ends. So no text in a value can end its literal early and go on as a
part of the statement.
-/

namespace SeriesSql

namespace Lexeme

def null : Lexeme :=
  .word ['N', 'U', 'L', 'L']

def isTruth (lexeme : Lexeme) : Bool :=
  lexeme == .word ['t', 'r', 'u', 'e'] || lexeme == .word ['f', 'a', 'l', 's', 'e']

def isNumber : Lexeme → Bool
  | .word cs => cs == nan
  | .number _ => true
  | _ => false

def isInteger : Lexeme → Bool
  | .number cs => !cs.contains '.'
  | _ => false

def isText : Lexeme → Bool
  | .text _ => true
  | _ => false

def isGeohash : Lexeme → Bool
  | .geohash _ => true
  | _ => false

def isArray : Lexeme → Bool
  | .numbers _ => true
  | _ => false

/-- Whether a value that is present may be written like this in a column of a type. -/
def fits (lexeme : Lexeme) : ColumnType → Bool
  | .boolean => lexeme.isTruth
  | .byte | .short | .int | .float | .long | .double => lexeme.isNumber
  | .date | .timestamp | .timestampNs => lexeme.isText || lexeme.isInteger
  | .geohash => lexeme.isGeohash
  | .array => lexeme.isArray
  | .binary => false
  | .char | .decimal | .symbol | .varchar | .string | .uuid | .ipv4 | .long256 => lexeme.isText

end Lexeme

namespace Literal

/-- Before every delimiter the text is read as this lexeme and nothing more. -/
def ReadsAs (text : String) (lexeme : Lexeme) : Prop :=
  ∀ rest, Delimited rest → Lexeme.read? (text.toList ++ rest) = some (lexeme, rest)

theorem readsAs_word {c : Char} {cs : List Char} (hc : Token.isNameStart c)
    (hcs : (c :: cs).all Token.isNamePart) :
    ReadsAs (String.ofList (c :: cs)) (.word (c :: cs)) := by
  intro rest hrest
  rw [String.toList_ofList]
  exact Lexeme.read?_word hc (List.all_eq_true.1 hcs) (hrest.stops rfl rfl rfl rfl)

theorem readsAs_null : ReadsAs "NULL" .null :=
  readsAs_word (by decide) (by decide)

theorem readsAs_nan : ReadsAs "NaN" (.word Lexeme.nan) :=
  readsAs_word (by decide) (by decide)

theorem readsAs_number {text : String} (h : Numeral.Signed text.toList) :
    ReadsAs text (.number text.toList) :=
  fun _ hrest => Lexeme.read?_number h hrest.ends

theorem readsAs_quoted (s : String) : ReadsAs (Token.quoted s) (.text s.toList) := by
  intro rest hrest
  rw [Token.quoted, String.toList_ofList]
  exact Lexeme.read?_text s.toList (hrest.ne_head (by decide) (by decide) (by decide) (by decide))

theorem read?_quoted (s : String) :
    Lexeme.read? (Token.quoted s).toList = some (.text s.toList, []) := by
  have h := readsAs_quoted s [] trivial
  rwa [List.append_nil] at h

theorem readsAs_geohash {s : String} (h : isGeohash s) :
    ReadsAs ("##" ++ s) (.geohash s.toList) := by
  intro rest hrest
  rw [isGeohash, Bool.and_eq_true] at h
  have hne : s.toList ≠ [] := by
    intro hnil
    rw [hnil] at h
    exact absurd h.1 (by decide)
  rw [String.toList_append]
  exact Lexeme.read?_geohash hne (List.all_eq_true.1 h.2) (hrest.stops rfl rfl rfl rfl)

theorem readsAs_array {elements : List String}
    (helements : ∀ element ∈ elements, Lexeme.IsNumber element.toList) :
    ReadsAs ("\x7b" ++ ",".intercalate elements ++ "\x7d")
      (.numbers (elements.map String.toList)) := by
  intro rest _
  have hitems : ∀ item ∈ elements.map String.toList, Lexeme.IsNumber item := by
    intro item hitem
    obtain ⟨element, helement, rfl⟩ := List.mem_map.1 hitem
    exact helements element helement
  rw [String.toList_append, String.toList_append, String.toList_intercalate]
  simpa using Lexeme.read?_numbers hitems rest

/-! ### The literals of the kinds of columns -/

theorem ok_of_blame {value : Value} {type : ColumnType} {result : Except LiteralFault String}
    {text : String} (h : blame value type result = .ok text) : result = .ok text := by
  cases result with
  | error fault => simp [blame, Except.mapError] at h
  | ok s => simpa [blame, Except.mapError] using h

theorem isNumber_ofDouble {x : Double} {text : String} (h : ofDouble x = .ok text) :
    Lexeme.IsNumber text.toList := by
  cases x with
  | nan =>
    cases h
    exact Or.inl rfl
  | infinite negative => cases h
  | finite negative rank =>
    cases h
    exact Or.inr (Numeral.signed_finite negative rank)

theorem isNumber_ofNumber {value : Value} {text : String} (h : ofNumber value = .ok text) :
    Lexeme.IsNumber text.toList := by
  cases value with
  | int n =>
    cases h
    exact Or.inr (Numeral.signed_int n.toInt)
  | bigInt n =>
    cases h
    exact Or.inr (Numeral.signed_int n)
  | float x => exact isNumber_ofDouble h
  | _ => cases h

theorem readsAs_isNumber {text : String} (h : Lexeme.IsNumber text.toList) :
    ∃ lexeme, ReadsAs text lexeme ∧ lexeme.isNumber := by
  rcases h with h | h
  · have htext : text = "NaN" := String.toList_inj.1 h
    exact ⟨_, htext ▸ readsAs_nan, rfl⟩
  · exact ⟨_, readsAs_number h, rfl⟩

theorem not_mem_intToString (n : Int) : '.' ∉ (toString n).toList := by
  rw [Numeral.toList_intToString]
  have hdigits : '.' ∉ Nat.toDigits 10 n.natAbs := by
    intro hmem
    exact absurd ((Numeral.digits_toDigits _).2 '.' hmem) (by decide)
  split
  · simpa using hdigits
  · exact hdigits

theorem readsAs_integer (n : Int) :
    ReadsAs (toString n) (.number (toString n).toList) ∧
      (Lexeme.number (toString n).toList).isInteger := by
  refine ⟨readsAs_number (Numeral.signed_int n), ?_⟩
  have h := not_mem_intToString n
  simpa [Lexeme.isInteger] using h

/-- The text is a literal of the value: it is one lexeme of some kind, and the characters of a text
are in it unchanged, either between its quotes or as a geohash. -/
def IsLiteral (value : Value) (text : String) (kind : Lexeme → Bool) : Prop :=
  ∃ lexeme, ReadsAs text lexeme ∧ kind lexeme ∧
    ∀ s, value = .text s → lexeme = .text s.toList ∨ lexeme = .geohash s.toList

theorem IsLiteral.mono {value : Value} {text : String} {kind kind' : Lexeme → Bool}
    (h : IsLiteral value text kind) (hkind : ∀ lexeme, kind lexeme → kind' lexeme) :
    IsLiteral value text kind' := by
  obtain ⟨lexeme, hreads, hlexeme, htext⟩ := h
  exact ⟨lexeme, hreads, hkind lexeme hlexeme, htext⟩

theorem isLiteral_ofBoolean {value : Value} {text : String} (h : ofBoolean value = .ok text) :
    IsLiteral value text Lexeme.isTruth := by
  cases value with
  | bool b =>
    cases h
    cases b
    · exact ⟨.word ['f', 'a', 'l', 's', 'e'], readsAs_word (by decide) (by decide), rfl, nofun⟩
    · exact ⟨.word ['t', 'r', 'u', 'e'], readsAs_word (by decide) (by decide), rfl, nofun⟩
  | _ => cases h

theorem isLiteral_ofNumber {value : Value} {text : String} (h : ofNumber value = .ok text) :
    IsLiteral value text Lexeme.isNumber := by
  obtain ⟨lexeme, hreads, hnumber⟩ := readsAs_isNumber (isNumber_ofNumber h)
  refine ⟨lexeme, hreads, hnumber, fun s hvalue => ?_⟩
  subst hvalue
  cases h

theorem isLiteral_quoted {value : Value} {body : String} (h : ∀ s, value = .text s → s = body) :
    IsLiteral value (Token.quoted body) Lexeme.isText := by
  refine ⟨_, readsAs_quoted body, rfl, fun s hvalue => Or.inl ?_⟩
  rw [h s hvalue]

theorem isLiteral_integer {value : Value} (n : Int) (h : ∀ s, value ≠ .text s) :
    IsLiteral value (toString n) Lexeme.isInteger := by
  obtain ⟨hreads, hinteger⟩ := readsAs_integer n
  exact ⟨_, hreads, hinteger, fun s hvalue => absurd hvalue (h s)⟩

theorem isLiteral_ofTemporal {places : Nat} {value : Value} {text : String}
    (h : ofTemporal places value = .ok text) :
    IsLiteral value text fun lexeme => lexeme.isText || lexeme.isInteger := by
  have hquoted : ∀ lexeme : Lexeme, lexeme.isText → lexeme.isText || lexeme.isInteger :=
    fun _ hlexeme => by rw [hlexeme, Bool.true_or]
  have hinteger : ∀ lexeme : Lexeme, lexeme.isInteger → lexeme.isText || lexeme.isInteger :=
    fun _ hlexeme => by rw [hlexeme, Bool.or_true]
  cases value with
  | timestamp t =>
    obtain rfl := Except.ok.inj h
    exact .mono (isLiteral_quoted fun _ hs => nomatch hs) hquoted
  | int n =>
    obtain rfl := Except.ok.inj h
    exact .mono (isLiteral_integer n.toInt fun _ hs => nomatch hs) hinteger
  | bigInt n =>
    obtain rfl := Except.ok.inj h
    exact .mono (isLiteral_integer n fun _ hs => nomatch hs) hinteger
  | text s =>
    obtain rfl := Except.ok.inj h
    exact (isLiteral_quoted fun t ht => (Value.text.inj ht).symm).mono hquoted
  | _ => cases h

theorem isLiteral_ofScalar {value : Value} {text : String}
    (h : (scalarText value).map Token.quoted = .ok text) : IsLiteral value text Lexeme.isText := by
  cases hscalar : scalarText value with
  | error fault =>
    rw [hscalar] at h
    cases h
  | ok body =>
    rw [hscalar] at h
    obtain rfl := Except.ok.inj h
    refine isLiteral_quoted fun s hvalue => ?_
    subst hvalue
    exact Except.ok.inj hscalar

theorem isLiteral_ofLong256 {value : Value} {text : String} (h : ofLong256 value = .ok text) :
    IsLiteral value text Lexeme.isText := by
  cases value with
  | bigInt n =>
    rw [ofLong256] at h
    split at h
    · cases h
    · obtain rfl := Except.ok.inj h
      exact isLiteral_quoted fun _ hs => nomatch hs
  | _ => exact isLiteral_ofScalar h

theorem isLiteral_ofGeohash {value : Value} {text : String} (h : ofGeohash value = .ok text) :
    IsLiteral value text Lexeme.isGeohash := by
  cases value with
  | text s =>
    rw [ofGeohash] at h
    split at h
    · rename_i hash
      obtain rfl := Except.ok.inj h
      refine ⟨_, readsAs_geohash hash, rfl, fun t ht => Or.inr ?_⟩
      rw [Value.text.inj ht]
    · cases h
  | _ => cases h

/-! ### Arrays -/

theorem isNumber_elementText {sequence element : Value} {text : String}
    (h : elementText sequence element = .ok text) : Lexeme.IsNumber text.toList := by
  cases element with
  | int n =>
    cases h
    exact Or.inr (Numeral.signed_int n.toInt)
  | bigInt n =>
    cases h
    exact Or.inr (Numeral.signed_int n)
  | float x =>
    cases hx : ofDouble x with
    | error fault => simp [elementText, hx, Except.mapError] at h
    | ok s =>
      have hs : s = text := by simpa [elementText, hx, Except.mapError] using h
      exact hs ▸ isNumber_ofDouble hx
  | _ => cases h

theorem isLiteral_ofSequence {value : Value} {text : String} (h : ofSequence value = .ok text) :
    IsLiteral value text Lexeme.isArray := by
  cases value with
  | array items =>
    cases helements : items.mapM (elementText (.array items)) with
    | error e => simp [ofSequence, helements, bind, Except.bind] at h
    | ok elements =>
      have htext : "\x7b" ++ ",".intercalate elements ++ "\x7d" = text := by
        simpa [ofSequence, helements, bind, Except.bind, pure, Except.pure] using h
      have hnumbers : ∀ element ∈ elements, Lexeme.IsNumber element.toList :=
        Check.forall_of_mapM_eq_ok isNumber_elementText helements
      exact ⟨_, htext ▸ readsAs_array hnumbers, rfl, nofun⟩
  | _ => cases h

/-! ### All values -/

theorem isLiteral_ofPresent {value : Value} {type : ColumnType} {text : String}
    (h : ofPresent value type = .ok text) :
    IsLiteral value text fun lexeme => lexeme.fits type := by
  cases type with
  | boolean => exact isLiteral_ofBoolean (ok_of_blame h)
  | byte | short | int | float | long | double => exact isLiteral_ofNumber (ok_of_blame h)
  | date | timestamp | timestampNs => exact isLiteral_ofTemporal (ok_of_blame h)
  | geohash => exact isLiteral_ofGeohash (ok_of_blame h)
  | array =>
    cases hsequence : ofSequence value with
    | error e => simp [ofPresent, hsequence, Except.mapError] at h
    | ok s =>
      have hs : s = text := by simpa [ofPresent, hsequence, Except.mapError] using h
      exact hs ▸ isLiteral_ofSequence hsequence
  | binary => cases h
  | long256 =>
    cases value with
    | binary bytes => cases h
    | _ => exact isLiteral_ofLong256 (ok_of_blame h)
  | char | decimal | symbol | varchar | string | uuid | ipv4 =>
    cases value with
    | binary bytes => cases h
    | _ => exact isLiteral_ofScalar (ok_of_blame h)

theorem isLiteral_ofValue {value : Value} {type : ColumnType} {text : String}
    (h : ofValue value type = .ok text) :
    IsLiteral value text fun lexeme =>
      if value.isNull then lexeme == .null else lexeme.fits type := by
  rw [ofValue] at h
  split at h
  · rename_i hnull
    obtain rfl := Except.ok.inj h
    refine ⟨.null, readsAs_null, by simp [hnull], fun s hvalue => ?_⟩
    rw [hvalue] at hnull
    cases hnull
  · rename_i hpresent
    apply (isLiteral_ofPresent h).mono
    intro lexeme hfits
    simp only [hpresent]
    exact hfits

theorem not_fits_null (type : ColumnType) : Lexeme.null.fits type = false := by
  cases type <;> decide

/-- No value but null has the literal of null. -/
theorem eq_null_iff {value : Value} {type : ColumnType} {text : String}
    (h : ofValue value type = .ok text) : text = "NULL" ↔ value.isNull := by
  obtain ⟨lexeme, hreads, hkind, -⟩ := isLiteral_ofValue h
  constructor
  · rintro rfl
    by_contra hpresent
    have hlexeme : Lexeme.null = lexeme := by
      have hboth := (readsAs_null [] trivial).symm.trans (hreads [] trivial)
      exact (Prod.mk.inj (Option.some.inj hboth)).1
    rw [Bool.not_eq_true] at hpresent
    simp only [hpresent, ← hlexeme, not_fits_null] at hkind
    cases hkind
  · intro hnull
    rw [ofValue, if_pos hnull] at h
    exact (Except.ok.inj h).symm

/-- No value escapes its literal: before every delimiter the literal is read as one lexeme, which
is the null or of the column's kind, and which holds a text as it is. -/
theorem ofValue_reads_as_one_lexeme {value : Value} {type : ColumnType} {text : String}
    (h : ofValue value type = .ok text) :
    ∃ lexeme,
      (∀ rest, Delimited rest → Lexeme.read? (text.toList ++ rest) = some (lexeme, rest)) ∧
      (if value.isNull then lexeme = .null else lexeme.fits type) ∧
      ∀ s, value = .text s → lexeme = .text s.toList ∨ lexeme = .geohash s.toList := by
  obtain ⟨lexeme, hreads, hkind, htext⟩ := isLiteral_ofValue h
  refine ⟨lexeme, hreads, ?_, htext⟩
  cases hnull : value.isNull with
  | true =>
    simp only [hnull, if_true] at hkind ⊢
    exact beq_iff_eq.1 hkind
  | false =>
    simp only [hnull] at hkind ⊢
    exact hkind

/-- A quote in a text does not end the literal. -/
theorem ofValue_reads_as_one_lexeme_quote :
    ofValue (.text "it's") .varchar = .ok "'it''s'" ∧
      ∃ lexeme, Lexeme.read? "'it''s') --".toList = some (lexeme, ") --".toList) ∧
        (lexeme = .text "it's".toList ∨ lexeme = .geohash "it's".toList) := by
  refine ⟨rfl, ?_⟩
  have h : ofValue (.text "it's") .varchar = .ok "'it''s'" := rfl
  obtain ⟨lexeme, hreads, -, htext⟩ := ofValue_reads_as_one_lexeme h
  exact ⟨lexeme, hreads ") --".toList (.inr (.inr (.inr rfl))), htext "it's" rfl⟩

end Literal
end SeriesSql
