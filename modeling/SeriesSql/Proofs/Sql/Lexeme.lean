import Mathlib
import SeriesSql.Proofs.Number.Numeral
import SeriesSql.Sql.Literal

/-!
# Lexemes

What a reader of a statement sees when it knows the text alone: words, numerals, texts in quotes,
geohashes, and arrays of numbers. A reader takes the longest piece that it can. Two things stop it
where the piece was written to end: the quote that closes a text, because every quote inside is
written twice, and a delimiter, because no other piece goes on with one.
-/

namespace SeriesSql

/-- A piece of a statement as it is read. A text is the one between the quotes. -/
inductive Lexeme where
  | word (cs : List Char)
  | number (cs : List Char)
  | text (cs : List Char)
  | geohash (cs : List Char)
  | numbers (items : List (List Char))
deriving DecidableEq, Repr

/-- Empty, or starting with a character that ends every literal. -/
def Delimited : List Char → Prop
  | [] => True
  | c :: _ => c = ' ' ∨ c = ',' ∨ c = '\n' ∨ c = ')'

theorem Delimited.head? {rest : List Char} (hrest : Delimited rest) :
    ∀ c ∈ rest.head?, c = ' ' ∨ c = ',' ∨ c = '\n' ∨ c = ')' := by
  intro c hc
  cases rest with
  | nil => simp at hc
  | cons d rest =>
    cases hc
    exact hrest

/-- No delimiter has a property that none of the four has. -/
theorem Delimited.stops {rest : List Char} (hrest : Delimited rest) {p : Char → Bool}
    (hspace : p ' ' = false) (hcomma : p ',' = false) (hline : p '\n' = false)
    (hclose : p ')' = false) : ∀ c ∈ rest.head?, p c = false := by
  intro c hc
  rcases hrest.head? c hc with rfl | rfl | rfl | rfl
  · exact hspace
  · exact hcomma
  · exact hline
  · exact hclose

theorem Delimited.ends {rest : List Char} (hrest : Delimited rest) : Numeral.Ends rest := by
  intro c hc
  rcases hrest.head? c hc with rfl | rfl | rfl | rfl <;> decide

theorem Delimited.ne_head {rest : List Char} (hrest : Delimited rest) {d : Char}
    (hspace : d ≠ ' ') (hcomma : d ≠ ',') (hline : d ≠ '\n') (hclose : d ≠ ')') :
    d ∉ rest.head? := by
  intro hd
  rcases hrest.head? d hd with h | h | h | h
  · exact hspace h
  · exact hcomma h
  · exact hline h
  · exact hclose h

namespace Token

/-- Reads characters up to the quote that closes them. Two quotes stand for one. -/
def unquote? (quote : Char) : List Char → Option (List Char × List Char)
  | [] => none
  | [c] => if c = quote then some ([], []) else none
  | c :: d :: cs =>
    if c = quote then
      if d = quote then (unquote? quote cs).map fun (body, rest) => (quote :: body, rest)
      else some ([], d :: cs)
    else (unquote? quote (d :: cs)).map fun (body, rest) => (c :: body, rest)

theorem unquote?_cons {quote c : Char} (hne : c ≠ quote) (cs : List Char) :
    unquote? quote (c :: cs) =
      (unquote? quote cs).map fun (body, rest) => (c :: body, rest) := by
  cases cs with
  | nil => simp [unquote?, hne]
  | cons d cs => rw [unquote?, if_neg hne]

theorem unquote?_pair (quote : Char) (cs : List Char) :
    unquote? quote (quote :: quote :: cs) =
      (unquote? quote cs).map fun (body, rest) => (quote :: body, rest) := by
  rw [unquote?, if_pos rfl, if_pos rfl]

theorem unquote?_close {quote : Char} {rest : List Char} (hrest : quote ∉ rest.head?) :
    unquote? quote (quote :: rest) = some ([], rest) := by
  cases rest with
  | nil => simp [unquote?]
  | cons d rest =>
    have hd : d ≠ quote := fun h => hrest (by simp [h])
    rw [unquote?, if_pos rfl, if_neg hd]

/-- A text in quotes is read back, whatever characters are in it. -/
theorem unquote?_doubleQuotes (quote : Char) (cs : List Char) {rest : List Char}
    (hrest : quote ∉ rest.head?) :
    unquote? quote (doubleQuotes quote cs ++ quote :: rest) = some (cs, rest) := by
  induction cs with
  | nil => exact unquote?_close hrest
  | cons c cs ih =>
    rw [doubleQuotes, List.flatMap_cons, List.append_assoc, ← doubleQuotes]
    by_cases hc : c = quote
    · subst hc
      rw [if_pos rfl, List.cons_append, List.singleton_append, unquote?_pair, ih]
      rfl
    · rw [if_neg hc, List.singleton_append, unquote?_cons hc, ih]
      rfl

/-- What is read up to a quote is the text with its quotes written twice, and no further quote
follows. -/
theorem unquote?_eq_some_iff {quote : Char} {cs body rest : List Char} :
    unquote? quote cs = some (body, rest) ↔
      cs = doubleQuotes quote body ++ quote :: rest ∧ quote ∉ rest.head? := by
  refine ⟨fun h => ?_, fun ⟨hcs, hrest⟩ => hcs ▸ unquote?_doubleQuotes quote body hrest⟩
  fun_induction unquote? quote cs generalizing body with
  | case1 => cases h
  | case2 =>
    obtain ⟨rfl, rfl⟩ := Prod.mk.inj (Option.some.inj h)
    exact ⟨rfl, nofun⟩
  | case3 => cases h
  | case4 cs ih =>
    obtain ⟨⟨tail, after⟩, hread, heq⟩ := Option.map_eq_some_iff.1 h
    obtain ⟨rfl, rfl⟩ := Prod.mk.inj heq
    obtain ⟨hcs, hrest⟩ := ih hread
    rw [hcs]
    exact ⟨by simp [doubleQuotes], hrest⟩
  | case5 d cs hd =>
    obtain ⟨rfl, rfl⟩ := Prod.mk.inj (Option.some.inj h)
    exact ⟨rfl, by simpa using hd⟩
  | case6 c d cs hc ih =>
    obtain ⟨⟨tail, after⟩, hread, heq⟩ := Option.map_eq_some_iff.1 h
    obtain ⟨rfl, rfl⟩ := Prod.mk.inj heq
    obtain ⟨hcs, hrest⟩ := ih hread
    rw [hcs]
    exact ⟨by simp [doubleQuotes, hc], hrest⟩

end Token

namespace Lexeme

def nan : List Char := ['N', 'a', 'N']

def isItem (cs : List Char) : Bool :=
  cs == nan || Numeral.read? cs == some (cs, [])

def items? (cs : List Char) : Option (List (List Char) × List Char) :=
  match cs.span (· != '\x7d') with
  | ([], _ :: rest) => some ([], rest)
  | (body, _ :: rest) =>
    let items := body.splitOn ','
    if items.all isItem then some (items, rest) else none
  | (_, []) => none

def geohash? : List Char → Option (List Char × List Char)
  | '#' :: cs =>
    match cs.span Literal.isGeohashChar with
    | ([], _) => none
    | (hash, rest) => some (hash, rest)
  | _ => none

/-- No digit starts a word. -/
theorem not_isNameStart_of_isDigit {c : Char} (hc : c.isDigit) : ¬ Token.isNameStart c := by
  simp only [Char.isDigit, Token.isNameStart, Char.isAlpha, Char.isUpper, Char.isLower,
    Bool.or_eq_true, Bool.and_eq_true, decide_eq_true_eq, beq_iff_eq, ge_iff_le,
    UInt32.le_iff_toNat_le] at hc ⊢
  change 48 ≤ c.val.toNat ∧ c.val.toNat ≤ 57 at hc
  rintro ((hupper | hlower) | rfl)
  · change 65 ≤ c.val.toNat ∧ c.val.toNat ≤ 90 at hupper
    omega
  · change 97 ≤ c.val.toNat ∧ c.val.toNat ≤ 122 at hlower
    omega
  · revert hc
    decide

/-- Reads one lexeme from the front of a text. Gives it and the rest. -/
def read? : List Char → Option (Lexeme × List Char)
  | [] => none
  | c :: cs =>
    if c = '\'' then (Token.unquote? '\'' cs).map fun (body, rest) => (.text body, rest)
    else if c = '#' then (geohash? cs).map fun (hash, rest) => (.geohash hash, rest)
    else if c = '\x7b' then (items? cs).map fun (items, rest) => (.numbers items, rest)
    else if Token.isNameStart c then
      let (letters, rest) := (c :: cs).span Token.isNamePart
      some (.word letters, rest)
    else (Numeral.read? (c :: cs)).map fun (digits, rest) => (.number digits, rest)

theorem read?_word {c : Char} {cs rest : List Char} (hc : Token.isNameStart c)
    (hcs : ∀ d ∈ c :: cs, Token.isNamePart d)
    (hrest : ∀ d ∈ rest.head?, Token.isNamePart d = false) :
    read? (c :: cs ++ rest) = some (.word (c :: cs), rest) := by
  have hquote : c ≠ '\'' := by rintro rfl; exact absurd hc (by decide)
  have hhash : c ≠ '#' := by rintro rfl; exact absurd hc (by decide)
  have hbrace : c ≠ '\x7b' := by rintro rfl; exact absurd hc (by decide)
  have hspan := span_append hcs hrest
  rw [List.cons_append] at hspan ⊢
  rw [read?, if_neg hquote, if_neg hhash, if_neg hbrace, if_pos hc, hspan]

/-- A digit or a minus sign starts a numeral. -/
theorem read?_eq_numeral {c : Char} (hc : c.isDigit ∨ c = '-') (cs : List Char) :
    read? (c :: cs) =
      (Numeral.read? (c :: cs)).map fun (digits, rest) => (.number digits, rest) := by
  have hquote : c ≠ '\'' := by rintro rfl; revert hc; decide
  have hhash : c ≠ '#' := by rintro rfl; revert hc; decide
  have hbrace : c ≠ '\x7b' := by rintro rfl; revert hc; decide
  have hletter : Token.isNameStart c ≠ true := by
    rcases hc with hc | rfl
    · exact not_isNameStart_of_isDigit hc
    · decide
  rw [read?, if_neg hquote, if_neg hhash, if_neg hbrace, if_neg hletter]

theorem read?_number {cs rest : List Char} (hcs : Numeral.Signed cs) (hrest : Numeral.Ends rest) :
    read? (cs ++ rest) = some (.number cs, rest) := by
  have hread := Numeral.read?_append hcs hrest
  obtain ⟨c, tail, rfl, hc⟩ := hcs.exists_head
  rw [List.cons_append] at hread ⊢
  rw [read?_eq_numeral hc, hread]
  rfl

/-- What follows a minus sign in a numeral is a numeral. -/
theorem read?_of_minus {cs digits rest : List Char}
    (h : read? ('-' :: cs) = some (.number ('-' :: digits), rest)) :
    read? cs = some (.number digits, rest) := by
  rw [read?_eq_numeral (.inr rfl), Numeral.read?, Option.map_map, Option.map_eq_some_iff] at h
  obtain ⟨⟨ds, rest'⟩, hunsigned, heq⟩ := h
  simp only [Function.comp_apply, Prod.mk.injEq, number.injEq, List.cons.injEq, true_and] at heq
  obtain ⟨rfl, rfl⟩ := heq
  obtain ⟨c, tail, rfl, hc⟩ := Numeral.exists_digit_of_unsigned? hunsigned
  have hne : c ≠ '-' := by
    rintro rfl
    exact absurd hc (by decide)
  have hread : Numeral.read? (c :: tail) = Numeral.unsigned? (c :: tail) := by
    simp [Numeral.read?, hne]
  rw [read?_eq_numeral (.inl hc), hread, hunsigned]
  rfl

theorem read?_text (cs : List Char) {rest : List Char} (hrest : '\'' ∉ rest.head?) :
    read? (Token.enclose '\'' cs ++ rest) = some (.text cs, rest) := by
  rw [Token.enclose, List.cons_append, List.cons_append, List.append_assoc, List.singleton_append,
    read?, if_pos rfl, Token.unquote?_doubleQuotes '\'' cs hrest]
  rfl

theorem read?_geohash {cs rest : List Char} (hne : cs ≠ [])
    (hcs : ∀ c ∈ cs, Literal.isGeohashChar c)
    (hrest : ∀ c ∈ rest.head?, Literal.isGeohashChar c = false) :
    read? ('#' :: '#' :: cs ++ rest) = some (.geohash cs, rest) := by
  obtain ⟨c, tail, rfl⟩ := List.exists_cons_of_ne_nil hne
  have hhash : ('#' : Char) ≠ '\'' := by decide
  rw [List.cons_append, read?, if_neg hhash, if_pos rfl, List.cons_append, geohash?,
    span_append hcs hrest]
  rfl

theorem eq_of_geohash? {cs hash rest : List Char} (h : geohash? cs = some (hash, rest)) :
    cs = '#' :: hash ++ rest ∧ ∀ c ∈ hash, Literal.isGeohashChar c := by
  unfold geohash? at h
  split at h
  · split at h
    · cases h
    · rename_i hash' rest' _ hspan
      obtain ⟨rfl, rfl⟩ := Prod.mk.inj (Option.some.inj h)
      obtain ⟨rfl, hhash, -⟩ := eq_append_of_span hspan
      exact ⟨rfl, hhash⟩
  · cases h

/-! ### Arrays -/

def IsNumber (cs : List Char) : Prop :=
  cs = nan ∨ Numeral.Signed cs

theorem IsNumber.isItem {cs : List Char} (hcs : IsNumber cs) : isItem cs := by
  rcases hcs with rfl | hcs
  · rfl
  · have hread := Numeral.read?_append hcs Numeral.Ends.nil
    rw [List.append_nil] at hread
    simp [Lexeme.isItem, hread]

theorem IsNumber.ne_nil {cs : List Char} (hcs : IsNumber cs) : cs ≠ [] := by
  rcases hcs with rfl | hcs
  · decide
  · obtain ⟨c, tail, rfl, -⟩ := hcs.exists_head
    exact List.cons_ne_nil c tail

/-- Neither a comma nor a brace stands in a number. -/
theorem IsNumber.not_mem {cs : List Char} (hcs : IsNumber cs) : ',' ∉ cs ∧ '\x7d' ∉ cs := by
  rcases hcs with rfl | hcs
  · decide
  · constructor <;> intro hmem <;> have h := hcs.mem hmem <;> revert h <;> decide

theorem mem_intercalate {α : Type} {sep x : α} {parts : List (List α)}
    (hx : x ∈ [sep].intercalate parts) : x = sep ∨ ∃ part ∈ parts, x ∈ part := by
  induction parts with
  | nil => simp at hx
  | cons part parts ih =>
    cases parts with
    | nil =>
      rw [List.intercalate_singleton] at hx
      exact Or.inr ⟨part, List.mem_cons_self, hx⟩
    | cons next parts =>
      rw [List.intercalate_cons_cons, List.mem_append, List.mem_append] at hx
      rcases hx with (hx | hx) | hx
      · exact Or.inr ⟨part, List.mem_cons_self, hx⟩
      · exact Or.inl (List.mem_singleton.1 hx)
      · rcases ih hx with h | ⟨other, hother, h⟩
        · exact Or.inl h
        · exact Or.inr ⟨other, List.mem_cons_of_mem _ hother, h⟩

theorem items?_intercalate {items : List (List Char)} (hitems : ∀ item ∈ items, IsNumber item)
    (rest : List Char) :
    items? ([','].intercalate items ++ '\x7d' :: rest) = some (items, rest) := by
  have hbody : ∀ c ∈ [','].intercalate items, (c != '\x7d') = true := by
    intro c hc
    rw [bne_iff_ne]
    rintro rfl
    rcases mem_intercalate hc with h | ⟨item, hitem, h⟩
    · exact absurd h (by decide)
    · exact (hitems item hitem).not_mem.2 h
  have hclose : ∀ c ∈ ('\x7d' :: rest).head?, (c != '\x7d') = false := by
    intro c hc
    cases hc
    rfl
  rw [items?, span_append hbody hclose]
  cases items with
  | nil => rfl
  | cons item items =>
    have hsplit : ([','].intercalate (item :: items)).splitOn ',' = item :: items :=
      List.splitOn_intercalate ',' (fun l hl => (hitems l hl).not_mem.1) (List.cons_ne_nil _ _)
    have hall : (item :: items).all isItem := by
      rw [List.all_eq_true]
      exact fun l hl => (hitems l hl).isItem
    have hne : [','].intercalate (item :: items) ≠ [] := by
      intro hnil
      rw [hnil] at hsplit
      have hnil : item = [] := (List.cons.inj hsplit).1.symm
      exact (hitems item List.mem_cons_self).ne_nil hnil
    obtain ⟨c, tail, hcons⟩ := List.exists_cons_of_ne_nil hne
    rw [hcons] at hsplit ⊢
    simp only [hsplit, hall, if_true]

theorem isNumber_of_isItem {cs : List Char} (h : isItem cs) : IsNumber cs := by
  rw [isItem, Bool.or_eq_true, beq_iff_eq, beq_iff_eq] at h
  exact h.imp id fun hread => (Numeral.signed_of_read? hread).2

/-- What is read up to a closing brace is numbers with commas between them. -/
theorem eq_intercalate_of_items? {cs rest : List Char} {items : List (List Char)}
    (h : items? cs = some (items, rest)) :
    cs = [','].intercalate items ++ '\x7d' :: rest ∧ ∀ item ∈ items, IsNumber item := by
  rw [items?] at h
  split at h
  · rename_i c after hspan
    obtain ⟨rfl, rfl⟩ := Prod.mk.inj (Option.some.inj h)
    obtain ⟨rfl, -, hclose⟩ := eq_append_of_span hspan
    have hbrace : c = '\x7d' := by simpa using hclose c rfl
    subst hbrace
    exact ⟨rfl, nofun⟩
  · rename_i body c after _ hspan
    obtain ⟨rfl, -, hclose⟩ := eq_append_of_span hspan
    have hbrace : c = '\x7d' := by simpa using hclose c rfl
    subst hbrace
    simp only [Option.ite_none_right_eq_some, Option.some.injEq, Prod.mk.injEq] at h
    obtain ⟨hall, rfl, rfl⟩ := h
    refine ⟨by rw [List.intercalate_splitOn], fun item hitem => ?_⟩
    exact isNumber_of_isItem (List.all_eq_true.1 hall item hitem)
  · cases h

theorem read?_numbers {items : List (List Char)} (hitems : ∀ item ∈ items, IsNumber item)
    (rest : List Char) :
    read? ('\x7b' :: [','].intercalate items ++ '\x7d' :: rest) = some (.numbers items, rest) := by
  have hquote : ('\x7b' : Char) ≠ '\'' := by decide
  have hhash : ('\x7b' : Char) ≠ '#' := by decide
  rw [List.cons_append, read?, if_neg hquote, if_neg hhash, if_pos rfl,
    items?_intercalate hitems rest]
  rfl

end Lexeme
end SeriesSql
