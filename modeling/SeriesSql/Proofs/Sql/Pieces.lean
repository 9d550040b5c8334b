import Mathlib
import SeriesSql.Proofs.Sql.Reader

/-!
# Reading the pieces of a statement

What the small readers give for a name, a literal, a fixed word and the clauses without
expressions, whatever comes after them, as long as it starts with something that can stand there.
-/

namespace SeriesSql

/-- A reader with fuel gives a result as soon as there is enough of it. -/
def Settles {α : Type} (read : Nat → Option α) (a : α) : Prop :=
  ∃ enough, ∀ fuel, enough ≤ fuel → read fuel = some a

namespace Settles

variable {α β : Type} {a : α} {b : β}

theorem unique {read : Nat → Option α} {other : α} (ha : Settles read a)
    (hother : Settles read other) : a = other := by
  obtain ⟨enough, ha⟩ := ha
  obtain ⟨enough', hother⟩ := hother
  have hsome := (ha (max enough enough') (by omega)).symm.trans (hother _ (by omega))
  exact Option.some.inj hsome

theorem of_eq {read : Nat → Option α} (h : ∀ fuel, read fuel = some a) : Settles read a :=
  ⟨0, fun fuel _ => h fuel⟩

theorem of_succ {read : Nat → Option α} (h : Settles (fun fuel => read (fuel + 1)) a) :
    Settles read a := by
  obtain ⟨enough, h⟩ := h
  refine ⟨enough + 1, fun fuel hfuel => ?_⟩
  obtain ⟨less, rfl⟩ : ∃ less, fuel = less + 1 := ⟨fuel - 1, by omega⟩
  exact h less (by omega)

theorem bind {read : Nat → Option α} {next : Nat → α → Option β} (h : Settles read a)
    (hnext : Settles (fun fuel => next fuel a) b) :
    Settles (fun fuel => (read fuel).bind (next fuel)) b := by
  obtain ⟨enough, h⟩ := h
  obtain ⟨enough', hnext⟩ := hnext
  refine ⟨max enough enough', fun fuel hfuel => ?_⟩
  simp only [h fuel (by omega), Option.bind_some]
  exact hnext fuel (by omega)

theorem map {read : Nat → Option α} {f : α → β} (h : Settles read a) :
    Settles (fun fuel => (read fuel).map f) (f a) := by
  obtain ⟨enough, h⟩ := h
  refine ⟨enough, fun fuel hfuel => ?_⟩
  simp only [h fuel hfuel, Option.map_some]

end Settles

/-! ### What comes next -/

/-- Whether two texts differ before one of them ends. -/
def clash (text other : String) : Bool :=
  !text.toList.isPrefixOf other.toList && !other.toList.isPrefixOf text.toList

/-- Empty, or starting with a closing parenthesis or one of some texts. -/
def Starts (texts : List String) (cs : List Char) : Prop :=
  cs = [] ∨ ∃ text ∈ ")" :: texts, text.toList <+: cs

/-- Every text that can come after an expression, but for a closing parenthesis. -/
def closers : List String :=
  [", ", "\n", " AS ", " ASC", " DESC", " TOLERANCE ", " BETWEEN ", " = ", " != ", " < ", " <= ",
    " > ", " >= ", " AND ", " OR ", " LIKE ", " ILIKE ", " ~ ", " + ", " - ", " * ", " / "]

namespace Starts

variable {texts : List String} {cs : List Char}

theorem nil : Starts texts [] :=
  .inl rfl

theorem close (rest : List Char) : Starts texts (')' :: rest) :=
  .inr ⟨")", List.mem_cons_self, rest, rfl⟩

theorem append {text : String} (htext : text ∈ texts) (rest : List Char) :
    Starts texts (text.toList ++ rest) :=
  .inr ⟨text, List.mem_cons_of_mem _ htext, List.prefix_append _ _⟩

theorem mono {more : List String} (h : Starts texts cs) (hmore : texts ⊆ more) :
    Starts more cs := by
  rcases h with rfl | ⟨text, htext, hcs⟩
  · exact nil
  · exact .inr ⟨text, List.cons_subset_cons _ hmore htext, hcs⟩

theorem lines (h : Starts texts cs)
    (htexts : texts.all fun text => "\n".toList.isPrefixOf text.toList) : Starts ["\n"] cs := by
  rcases h with rfl | ⟨text, htext, hcs⟩
  · exact nil
  · rcases List.mem_cons.1 htext with rfl | htext
    · exact .inr ⟨")", List.mem_cons_self, hcs⟩
    · have hline := List.isPrefixOf_iff_prefix.1 (List.all_eq_true.1 htexts text htext)
      exact .inr ⟨"\n", by decide, hline.trans hcs⟩

end Starts

namespace Reader

theorem expect_append (text : String) (rest : List Char) :
    expect text (text.toList ++ rest) = some rest :=
  List.isPrefixOf?_eq_some_iff_append_eq.2 rfl

theorem expect_eq_none {text : String} {cs : List Char} (h : ¬ text.toList <+: cs) :
    expect text cs = none := by
  rw [expect, Option.eq_none_iff_forall_not_mem]
  intro rest hrest
  exact h ⟨rest, List.isPrefixOf?_eq_some_iff_append_eq.1 hrest⟩

/-- A text is not there when something else is. -/
theorem expect_of_clash {text other : String} (hclash : clash text other) {cs : List Char}
    (hother : other.toList <+: cs) : expect text cs = none := by
  rw [clash, Bool.and_eq_true, Bool.not_eq_true', Bool.not_eq_true', ← Bool.not_eq_true,
    ← Bool.not_eq_true, List.isPrefixOf_iff_prefix, List.isPrefixOf_iff_prefix] at hclash
  apply expect_eq_none
  intro htext
  rcases List.prefix_or_prefix_of_prefix htext hother with h | h
  · exact hclash.1 h
  · exact hclash.2 h

theorem expect_of_starts {text : String} {texts : List String}
    (hclash : (")" :: texts).all (clash text)) {cs : List Char} (hcs : Starts texts cs) :
    expect text cs = none := by
  rcases hcs with rfl | ⟨other, hother, hcs⟩
  · apply expect_eq_none
    intro htext
    have hempty : text.toList = [] := List.prefix_nil.1 htext
    have hclose := List.all_eq_true.1 hclash ")" List.mem_cons_self
    rw [clash, hempty] at hclose
    exact absurd hclose (by decide)
  · exact expect_of_clash (List.all_eq_true.1 hclash other hother) hcs

end Reader

def startsDelimited (text : String) : Bool :=
  text.toList.head?.any Reader.isDelimiter

theorem Reader.isDelimiter_iff {c : Char} :
    isDelimiter c ↔ c = ' ' ∨ c = ',' ∨ c = '\n' ∨ c = ')' := by
  simp [isDelimiter, or_assoc]

theorem Starts.delimited {texts : List String} (htexts : texts.all startsDelimited)
    {cs : List Char} (h : Starts texts cs) : Delimited cs := by
  have hall : (")" :: texts).all startsDelimited := by
    rw [List.all_cons, htexts]
    rfl
  rcases h with rfl | ⟨text, htext, rest, rfl⟩
  · trivial
  · have hstart := List.all_eq_true.1 hall text htext
    rw [startsDelimited] at hstart
    cases hcs : text.toList with
    | nil =>
      rw [hcs] at hstart
      cases hstart
    | cons c tail =>
      rw [hcs] at hstart
      exact Reader.isDelimiter_iff.1 hstart

theorem delimited_append (text : String) (htext : startsDelimited text) (rest : List Char) :
    Delimited (text.toList ++ rest) := by
  have hstarts : Starts [text] (text.toList ++ rest) := .append List.mem_cons_self rest
  apply hstarts.delimited
  rw [List.all_cons, htext]
  rfl

namespace Reader

/-! ### Names -/

/-- What may follow a name: anything that neither goes on with it nor is a further quote. -/
def NameEnds (rest : List Char) : Prop :=
  ∀ c ∈ rest.head?, Token.isNamePart c = false ∧ c ≠ '"'

theorem nameEnds_cons {c : Char} (rest : List Char) (hc : Token.isNamePart c = false)
    (hquote : c ≠ '"') : NameEnds (c :: rest) := by
  intro d hd
  cases hd
  exact ⟨hc, hquote⟩

theorem nameEnds_of_delimited {rest : List Char} (hrest : Delimited rest) : NameEnds rest := by
  intro c hc
  rcases hrest.head? c hc with rfl | rfl | rfl | rfl <;> decide

theorem isNamePart_of_isNameStart {c : Char} (hc : Token.isNameStart c) : Token.isNamePart c := by
  simp only [Token.isNameStart, Token.isNamePart, Char.isAlphanum, Bool.or_eq_true] at hc ⊢
  exact hc.imp .inl id

theorem isBareName_cons {cs : List Char} (h : Token.isBareName cs) :
    ∃ c tail, cs = c :: tail ∧ Token.isNameStart c ∧ ∀ d ∈ c :: tail, Token.isNamePart d := by
  cases cs with
  | nil => cases h
  | cons c tail =>
    rw [Token.isBareName, Bool.and_eq_true] at h
    exact ⟨c, tail, rfl, h.1,
      List.forall_mem_cons.2 ⟨isNamePart_of_isNameStart h.1, List.all_eq_true.1 h.2⟩⟩

theorem exists_head_name (n : String) :
    ∃ c tail, (Token.name n).toList = c :: tail ∧ (c = '"' ∨ Token.isNameStart c) := by
  rw [Token.name, String.toList_ofList, Token.nameChars]
  split
  · rename_i hbare
    obtain ⟨c, tail, hcs, hstart, -⟩ := isBareName_cons hbare
    exact ⟨c, tail, hcs, .inr hstart⟩
  · exact ⟨'"', _, rfl, .inl rfl⟩

theorem name_ne_head {n : String} {c : Char} (hquote : c ≠ '"')
    (hstart : Token.isNameStart c = false) (more : List Char) :
    c ∉ ((Token.name n).toList ++ more).head? := by
  obtain ⟨d, tail, hcs, hd⟩ := exists_head_name n
  rw [hcs]
  intro hc
  obtain rfl := Option.some.inj hc
  rcases hd with hd | hd
  · exact hquote hd
  · rw [hstart] at hd
    cases hd

theorem read?_bareName {cs rest : List Char} (hcs : Token.isBareName cs) (hrest : NameEnds rest) :
    Lexeme.read? (cs ++ rest) = some (.word cs, rest) := by
  obtain ⟨c, tail, rfl, hstart, hpart⟩ := isBareName_cons hcs
  exact Lexeme.read?_word hstart hpart fun d hd => (hrest d hd).1

/-- A name is read back, whatever is in it. -/
theorem identifier_append (s : String) {rest : List Char} (hrest : NameEnds rest) :
    identifier ((Token.name s).toList ++ rest) = some (s, rest) := by
  rw [Token.name, String.toList_ofList, Token.nameChars]
  split
  · rename_i hbare
    obtain ⟨c, tail, hcs, hstart, -⟩ := isBareName_cons hbare
    have hquote : c ≠ '"' := by
      rintro rfl
      exact absurd hstart (by decide)
    rw [identifier]
    · rw [read?_bareName hbare hrest]
      simp only [String.ofList_toList]
    · intro more hmore
      rw [hcs, List.cons_append, List.cons.injEq] at hmore
      exact hquote hmore.1
  · have hquote : '"' ∉ rest.head? := fun h => (hrest _ h).2 rfl
    rw [Token.enclose, List.cons_append, List.cons_append, List.append_assoc,
      List.singleton_append, identifier, Token.unquote?_doubleQuotes '"' s.toList hquote]
    simp

theorem name_of_identifier {cs rest : List Char} {s : String}
    (h : identifier cs = some (s, rest)) (hs : s ∉ bareWords) : name cs = some (s, rest) := by
  unfold identifier at h
  split at h
  · exact h
  · rename_i hquote
    split at h
    · rename_i letters rest' hread
      obtain ⟨rfl, rfl⟩ := Prod.mk.inj (Option.some.inj h)
      rw [name]
      · rw [hread]
        exact if_neg hs
      · exact hquote
    · cases h

/-- A name that is not a word of a statement is read back, in quotes or without. -/
theorem name_append {s : String} (hs : s ∉ bareWords) {rest : List Char} (hrest : NameEnds rest) :
    name ((Token.name s).toList ++ rest) = some (s, rest) :=
  name_of_identifier (identifier_append s hrest) hs

theorem name_eq_none {cs : List Char} (hquote : '"' ∉ cs.head?)
    (hword : ∀ letters rest, Lexeme.read? cs = some (.word letters, rest) →
      String.ofList letters ∈ bareWords) : name cs = none := by
  rw [name]
  · cases hread : Lexeme.read? cs with
    | none => rfl
    | some result =>
      obtain ⟨lexeme, rest⟩ := result
      cases lexeme with
      | word letters =>
        simp only
        rw [if_pos (hword letters rest hread)]
      | _ => rfl
  · rintro tail rfl
    exact hquote rfl

/-- A word in front of a space is a keyword. -/
theorem keyword_append (word : String) (hword : Token.isBareName word.toList) (rest : List Char) :
    keyword word (word.toList ++ ' ' :: rest) = some rest := by
  rw [keyword, read?_bareName hword (nameEnds_cons rest rfl (by decide))]
  simp

theorem keyword_eq_none {word : String} {cs : List Char}
    (hword : ∀ letters rest, Lexeme.read? cs = some (.word letters, rest) →
      letters ≠ word.toList) : keyword word cs = none := by
  rw [keyword]
  split
  · rename_i letters rest hread
    rw [if_neg (hword _ _ hread)]
  · rfl

/-! ### Literals -/

def literalWords : List String :=
  ["NULL", "true", "false", "NaN"]

/-- A text that is read as one lexeme, which is no word but that of a literal. -/
def IsLexeme (text : String) : Prop :=
  ∃ lexeme, Literal.ReadsAs text lexeme ∧
    ∀ letters, lexeme = .word letters → String.ofList letters ∈ literalWords

theorem mem_literalWords_of_fits {letters : List Char} {type : ColumnType}
    (h : (Lexeme.word letters).fits type) : String.ofList letters ∈ literalWords := by
  have htruth : (Lexeme.word letters).isTruth → String.ofList letters ∈ literalWords := by
    intro htruth
    simp only [Lexeme.isTruth, Bool.or_eq_true, beq_iff_eq, Lexeme.word.injEq] at htruth
    rcases htruth with rfl | rfl <;> decide
  have hnumber : (Lexeme.word letters).isNumber → String.ofList letters ∈ literalWords := by
    intro hnumber
    simp only [Lexeme.isNumber, beq_iff_eq] at hnumber
    rw [hnumber]
    decide
  cases type with
  | boolean => exact htruth h
  | byte | short | int | float | long | double => exact hnumber h
  | _ => cases h

theorem isLexeme_ofValue {value : Value} {type : ColumnType} {text : String}
    (h : Literal.ofValue value type = .ok text) : IsLexeme text := by
  obtain ⟨lexeme, hreads, hkind, -⟩ := Literal.isLiteral_ofValue h
  refine ⟨lexeme, hreads, ?_⟩
  rintro letters rfl
  split at hkind
  · have hnull : Lexeme.word letters = Lexeme.null := beq_iff_eq.1 hkind
    obtain rfl := Lexeme.word.inj hnull
    decide
  · exact mem_literalWords_of_fits hkind

theorem read?_eq_none {c : Char} (hc : c = '(' ∨ c = ')' ∨ c = '*' ∨ c = '"') (cs : List Char) :
    Lexeme.read? (c :: cs) = none := by
  rcases hc with rfl | rfl | rfl | rfl <;> rfl

namespace IsLexeme

variable {text : String}

theorem exists_head (h : IsLexeme text) :
    ∃ c tail, text.toList = c :: tail ∧ c ≠ '(' ∧ c ≠ ')' ∧ c ≠ '*' ∧ c ≠ '"' := by
  obtain ⟨lexeme, hreads, -⟩ := h
  have hread := hreads [] trivial
  rw [List.append_nil] at hread
  cases hcs : text.toList with
  | nil =>
    rw [hcs] at hread
    cases hread
  | cons c tail =>
    rw [hcs] at hread
    have hne : ¬ (c = '(' ∨ c = ')' ∨ c = '*' ∨ c = '"') := by
      intro hc
      rw [read?_eq_none hc tail] at hread
      cases hread
    simp only [not_or] at hne
    exact ⟨c, tail, rfl, hne⟩

theorem literal_append (h : IsLexeme text) {rest : List Char} (hrest : Delimited rest) :
    literal (text.toList ++ rest) = some (text, rest) := by
  obtain ⟨lexeme, hreads, -⟩ := h
  rw [literal, hreads rest hrest]
  simp

theorem word_mem (h : IsLexeme text) {rest : List Char} (hrest : Delimited rest)
    {letters rest' : List Char}
    (hread : Lexeme.read? (text.toList ++ rest) = some (.word letters, rest')) :
    String.ofList letters ∈ literalWords := by
  obtain ⟨lexeme, hreads, hword⟩ := h
  rw [hreads rest hrest] at hread
  exact hword letters (congrArg Prod.fst (Option.some.inj hread))

theorem name_eq_none (h : IsLexeme text) {rest : List Char} (hrest : Delimited rest) :
    name (text.toList ++ rest) = none := by
  obtain ⟨c, tail, hcs, -, -, -, hquote⟩ := h.exists_head
  apply Reader.name_eq_none
  · rw [hcs]
    intro hc
    exact hquote (Option.some.inj hc)
  · intro letters rest' hread
    have hmem := h.word_mem hrest hread
    have hsubset : literalWords ⊆ bareWords := by decide
    exact hsubset hmem

/-- Without its minus sign a numeral is still a numeral. -/
theorem tail {cs : List Char} (h : IsLexeme text) (htext : text.toList = '-' :: cs) :
    IsLexeme (String.ofList cs) := by
  obtain ⟨lexeme, hreads, -⟩ := h
  simp only [Literal.ReadsAs, htext, List.cons_append] at hreads
  obtain ⟨digits, rfl⟩ : ∃ digits, lexeme = .number ('-' :: digits) := by
    have hread := hreads [] trivial
    rw [Lexeme.read?_eq_numeral (.inr rfl), Numeral.read?, Option.map_map,
      Option.map_eq_some_iff] at hread
    obtain ⟨⟨digits, rest⟩, -, heq⟩ := hread
    exact ⟨digits, (congrArg Prod.fst heq).symm⟩
  refine ⟨.number digits, fun rest hrest => ?_, fun letters hword => ?_⟩
  · rw [String.toList_ofList]
    exact Lexeme.read?_of_minus (hreads rest hrest)
  · cases hword

end IsLexeme

/-! ### Unquoted and quoted pieces -/

theorem quoted_append (s : String) {rest : List Char} (hrest : '\'' ∉ rest.head?) :
    quoted (Token.doubleQuotes '\'' s.toList ++ '\'' :: rest) = some (s, rest) := by
  rw [quoted, Token.unquote?_doubleQuotes '\'' s.toList hrest]
  simp

/-- Whether no delimiter stands in a text. -/
def isChunk (text : String) : Bool :=
  text.toList.all (!isDelimiter ·)

theorem isChunk_iff {text : String} :
    isChunk text ↔ ∀ c ∈ text.toList, isDelimiter c = false := by
  simp only [isChunk, List.all_eq_true, Bool.not_eq_true']

theorem span_isDelimiter {body rest : List Char} (hbody : ∀ c ∈ body, isDelimiter c = false)
    (hrest : Delimited rest) : (body ++ rest).span (!isDelimiter ·) = (body, rest) := by
  apply span_append
  · intro c hc
    rw [hbody c hc]
    rfl
  · exact hrest.stops rfl rfl rfl rfl

theorem chunk_append {text : String} (htext : isChunk text) {rest : List Char}
    (hrest : Delimited rest) : chunk (text.toList ++ rest) = some (text, rest) := by
  rw [chunk, span_isDelimiter (isChunk_iff.1 htext) hrest]
  simp

theorem isDelimiter_of_isDigit {c : Char} (hc : c.isDigit) : isDelimiter c = false := by
  rw [← Bool.not_eq_true, isDelimiter_iff]
  rintro (rfl | rfl | rfl | rfl) <;> exact absurd hc (by decide)

theorem integer_append (n : Int) {rest : List Char} (hrest : Delimited rest) :
    integer ((toString n).toList ++ rest) = some (n, rest) := by
  have hdigits : ∀ c ∈ Nat.toDigits 10 n.natAbs, isDelimiter c = false := fun c hc =>
    isDelimiter_of_isDigit ((Numeral.digits_toDigits n.natAbs).2 c hc)
  rw [Numeral.toList_intToString]
  split
  · rename_i hneg
    have hminus : ∀ c ∈ '-' :: Nat.toDigits 10 n.natAbs, isDelimiter c = false :=
      List.forall_mem_cons.2 ⟨rfl, hdigits⟩
    simp only [integer, span_isDelimiter hminus hrest, Nat.ofDigitChars_ten_toDigits]
    congr 2
    omega
  · rename_i hpos
    obtain ⟨c, tail, hcs⟩ := List.exists_cons_of_ne_nil (Numeral.digits_toDigits n.natAbs).1
    have hc : c ≠ '-' := by
      rintro rfl
      have hdigit := (Numeral.digits_toDigits n.natAbs).2 '-' (hcs ▸ List.mem_cons_self)
      exact absurd hdigit (by decide)
    rw [integer, span_isDelimiter hdigits hrest]
    split
    · rename_i digits rest' heq
      rw [hcs] at heq
      exact absurd (List.cons.inj (congrArg Prod.fst heq)).1 hc
    · rename_i digits rest' _ heq
      obtain ⟨rfl, rfl⟩ := Prod.mk.inj heq
      rw [Nat.ofDigitChars_ten_toDigits]
      congr 2
      omega

theorem optional_append {α : Type} (before : String) (read : Reader α) (cs : List Char) :
    optional before read (before.toList ++ cs) = (read cs).map fun (a, rest) => (some a, rest) := by
  rw [optional, expect_append]

theorem optionalList_append {α : Type} (before : String) (read : Reader (List α)) (cs : List Char) :
    optionalList before read (before.toList ++ cs) = read cs := by
  rw [optionalList, expect_append]

theorem optionalList_eq_nil {α : Type} {before : String} (read : Reader (List α)) {cs : List Char}
    (h : expect before cs = none) : optionalList before read cs = some ([], cs) := by
  rw [optionalList, h]

theorem optional_eq_none {α : Type} {before : String} (read : Reader α) {cs : List Char}
    (h : expect before cs = none) : optional before read cs = some (none, cs) := by
  rw [optional, h]

end Reader
end SeriesSql
