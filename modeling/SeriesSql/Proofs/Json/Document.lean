import Mathlib
import SeriesSql.Json.Document
import SeriesSql.Proofs.Number.Integer

/-!
# A written document is read back

The compact text of a JSON value reads as a document of the same structure: the same fields in the
same order, the same texts, and every number with the characters it was written with. This needs
that each number is a text which a reader takes as a whole; the digits of an integer are.
-/

namespace SeriesSql

mutual

def Json.document : Json → Document
  | .null => .null
  | .bool b => .bool b
  | .number text => .number text
  | .string s => .string (some s)
  | .array items => .array (Json.documents items)
  | .object fields => .object (Json.fieldDocuments fields)

def Json.documents : List Json → List Document
  | [] => []
  | item :: rest => item.document :: Json.documents rest

def Json.fieldDocuments : List (String × Json) → List (Option String × Document)
  | [] => []
  | (name, value) :: rest => (some name, value.document) :: Json.fieldDocuments rest

end

theorem Json.documents_eq_map (items : List Json) :
    Json.documents items = items.map Json.document := by
  induction items with
  | nil => rfl
  | cons item rest ih => simp [Json.documents, ih]

namespace Document

/-! ### Strings -/

theorem code?_control : ∀ n < 0x20,
    ∃ a b c d, List.replicate (4 - (Integer.hex n).length) '0' ++ Integer.hex n = [a, b, c, d] ∧
      code? [a, b, c, d] = some n := by
  intro n hn
  have hread : ∀ n < 0x20,
      let cs := List.replicate (4 - (Integer.hex n).length) '0' ++ Integer.hex n
      cs.length = 4 ∧ code? cs = some n := by
    decide
  obtain ⟨hlength, hcode⟩ := hread n hn
  obtain ⟨a, b, c, d, heq⟩ := List.length_eq_four.1 hlength
  exact ⟨a, b, c, d, heq, heq ▸ hcode⟩

theorem joinPieces?_code {n : Nat} (hn : n < 0x20) (pieces : List Piece) :
    joinPieces? (.code n :: pieces) = (joinPieces? pieces).map (Char.ofNat n :: ·) := by
  have hhigh : isHighSurrogate n = false := by
    simp only [isHighSurrogate, Bool.and_eq_false_iff, decide_eq_false_iff_not]
    omega
  have hlow : isLowSurrogate n = false := by
    simp only [isLowSurrogate, Bool.and_eq_false_iff, decide_eq_false_iff_not]
    omega
  rcases pieces with _ | ⟨_ | _, pieces⟩ <;> simp [joinPieces?, hhigh, hlow]

/-- One escaped character is read as one piece, which stands for the character. -/
theorem pieces?_escapedChar (c : Char) {cs rest : List Char} {pieces : List Piece}
    (h : pieces? cs = some (pieces, rest)) :
    ∃ piece, pieces? (Json.escapedChar c ++ cs) = some (piece :: pieces, rest) ∧
      joinPieces? (piece :: pieces) = (joinPieces? pieces).map (c :: ·) := by
  have hletter : ∀ letter d, escape? letter = some d → letter ≠ 'u' →
      pieces? ('\\' :: letter :: cs) = some (.char d :: pieces, rest) := by
    intro letter d hd hu
    rw [pieces?]
    · simp [hd, h]
    · rintro a b c d tail rfl
      exact absurd rfl hu
  rw [Json.escapedChar.eq_def]
  split
  · exact ⟨.char '"', hletter '"' _ rfl (by decide), rfl⟩
  · exact ⟨.char '\\', hletter '\\' _ rfl (by decide), rfl⟩
  · exact ⟨.char '\x08', hletter 'b' _ rfl (by decide), rfl⟩
  · exact ⟨.char '\x0c', hletter 'f' _ rfl (by decide), rfl⟩
  · exact ⟨.char '\n', hletter 'n' _ rfl (by decide), rfl⟩
  · exact ⟨.char '\r', hletter 'r' _ rfl (by decide), rfl⟩
  · exact ⟨.char '\t', hletter 't' _ rfl (by decide), rfl⟩
  · rename_i hquote hslash _ _ _ _ _
    split
    · -- A control character without a letter of its own is written by its code.
      rename_i hcontrol
      obtain ⟨a, b, d, e, hdigits, hcode⟩ := code?_control c.toNat hcontrol
      refine ⟨.code c.toNat, ?_, ?_⟩
      · simp only [hdigits, List.cons_append, List.nil_append]
        simp [pieces?, hcode, h]
      · rw [joinPieces?_code hcontrol, Char.ofNat_toNat]
    · rename_i hcontrol
      refine ⟨.char c, ?_, rfl⟩
      rw [List.singleton_append, pieces?]
      · simp [hcontrol, h]
      · exact hquote
      · rintro _ _ _ _ _ rfl
        exact absurd rfl hslash
      · rintro _ _ rfl
        exact absurd rfl hslash

theorem pieces?_escaped (cs rest : List Char) :
    ∃ pieces, pieces? (cs.flatMap Json.escapedChar ++ '"' :: rest) = some (pieces, rest) ∧
      joinPieces? pieces = some cs := by
  induction cs with
  | nil => exact ⟨[], by rw [List.flatMap_nil, List.nil_append, pieces?], rfl⟩
  | cons c cs ih =>
    obtain ⟨pieces, hread, hjoin⟩ := ih
    obtain ⟨piece, hread, hpiece⟩ := pieces?_escapedChar c hread
    refine ⟨piece :: pieces, ?_, by rw [hpiece, hjoin, Option.map_some]⟩
    rw [List.flatMap_cons, List.append_assoc, hread]

/-- A string is read back, whatever characters are in it. -/
theorem stringBody?_append (s : String) (rest : List Char) :
    stringBody? (s.toList.flatMap Json.escapedChar ++ '"' :: rest) = some (some s, rest) := by
  obtain ⟨pieces, hread, hjoin⟩ := pieces?_escaped s.toList rest
  rw [stringBody?, hread]
  simp only [Option.map_some, hjoin, String.ofList_toList]

/-! ### Numbers -/

/-- A text that does not continue a number before it. -/
def NumberEnds (rest : List Char) : Prop :=
  ∀ c ∈ rest.head?, c.isDigit = false ∧ c ≠ '.' ∧ c ≠ 'e' ∧ c ≠ 'E'

/-- A text that is read as a number, all of it and as it is. -/
def IsNumber (text : String) : Prop :=
  ∀ rest, NumberEnds rest → number? (text.toList ++ rest) = some (.number text, rest)

theorem digits?_append {ds rest : List Char} (hds : Numeral.Digits ds)
    (hrest : ∀ c ∈ rest.head?, c.isDigit = false) : digits? (ds ++ rest) = some (ds, rest) := by
  have hspan := span_append hds.2 hrest
  rw [List.span_eq_takeWhile_dropWhile] at hspan
  obtain ⟨htake, hdrop⟩ := Prod.mk.inj hspan
  rw [digits?, htake, hdrop]
  obtain ⟨c, cs, rfl⟩ := List.exists_cons_of_ne_nil hds.1
  rfl

theorem magnitude?_toDigits (n : Nat) {rest : List Char} (hrest : NumberEnds rest) :
    magnitude? (Nat.toDigits 10 n ++ rest) = some (Nat.toDigits 10 n, rest) := by
  have hwhole : whole? (Nat.toDigits 10 n ++ rest) = some (Nat.toDigits 10 n, rest) := by
    rw [whole?, digits?_append (Numeral.digits_toDigits n) fun c hc => (hrest c hc).1]
    rcases Nat.eq_zero_or_pos n with rfl | hn
    · simp
    · simp [Integer.head?_toDigits hn]
  have hfraction : fraction? rest = some ([], rest) := by
    rw [fraction?]
    rintro cs rfl
    exact absurd rfl (hrest '.' rfl).2.1
  have hexponent : exponent? rest = some ([], rest) := by
    rw [exponent?]
    · rintro cs rfl
      exact absurd rfl (hrest 'e' rfl).2.2.1
    · rintro cs rfl
      exact absurd rfl (hrest 'E' rfl).2.2.2
  simp [magnitude?, hwhole, hfraction, hexponent]

theorem isNumber_toString (n : Int) : IsNumber (toString n) := by
  intro rest hrest
  have htext := Numeral.toList_intToString n
  split at htext
  · have hofList : String.ofList ('-' :: Nat.toDigits 10 n.natAbs) = toString n := by
      rw [← htext, String.ofList_toList]
    rw [htext, List.cons_append, number?, magnitude?_toDigits _ hrest]
    simp only [Option.map_some, hofList]
  · have hofList : String.ofList (Nat.toDigits 10 n.natAbs) = toString n := by
      rw [← htext, String.ofList_toList]
    have hread := magnitude?_toDigits n.natAbs hrest
    obtain ⟨hne, hdigits⟩ := Numeral.digits_toDigits n.natAbs
    obtain ⟨c, cs, hcons⟩ := List.exists_cons_of_ne_nil hne
    rw [htext, number?, hread]
    · simp only [Option.map_some, hofList]
    · rintro tail heq
      rw [hcons] at heq hdigits
      obtain rfl := (List.cons.inj heq).1
      exact absurd (hdigits '-' List.mem_cons_self) (by decide)

theorem IsNumber.exists_head {text : String} (h : IsNumber text) :
    ∃ c cs, text.toList = c :: cs ∧ (c.isDigit ∨ c = '-') := by
  have hread := h [] (by simp [NumberEnds])
  rw [List.append_nil] at hread
  cases htext : text.toList with
  | nil => rw [htext] at hread; cases hread
  | cons c cs =>
    refine ⟨c, cs, rfl, ?_⟩
    by_contra hc
    rw [not_or, Bool.not_eq_true] at hc
    rw [htext, number?] at hread
    · simp [magnitude?, whole?, digits?, hc.1] at hread
    · intro tail heq
      exact hc.2 (List.cons.inj heq).1

/-! ### Values -/

/-- A value each number of which is read as it is. -/
inductive Exact : Json → Prop where
  | null : Exact .null
  | bool (b : Bool) : Exact (.bool b)
  | number {text : String} : IsNumber text → Exact (.number text)
  | string (s : String) : Exact (.string s)
  | array {items : List Json} : (∀ item ∈ items, Exact item) → Exact (.array items)
  | object {fields : List (String × Json)} :
      (∀ field ∈ fields, Exact field.2) → Exact (.object fields)

/-- Read back from the front of any text. Two steps for each character are enough. -/
def IsRead (json : Json) : Prop :=
  ∀ fuel rest, 2 * json.chars.length ≤ fuel → NumberEnds rest →
    value? fuel (json.chars ++ rest) = some (json.document, rest)

theorem skipSpace_cons {c : Char} (hc : isSpace c = false) (cs : List Char) :
    skipSpace (c :: cs) = c :: cs := by
  simp [skipSpace, hc]

theorem isSpace_of_number {c : Char} (hc : c.isDigit ∨ c = '-') : isSpace c = false := by
  simp only [isSpace, Bool.or_eq_false_iff, beq_eq_false_iff_ne]
  refine ⟨⟨⟨?_, ?_⟩, ?_⟩, ?_⟩ <;> rintro rfl <;> revert hc <;> decide

theorem value?_number {c : Char} (hc : c.isDigit ∨ c = '-') (fuel : Nat) (cs : List Char) :
    value? (fuel + 1) (c :: cs) = number? (c :: cs) := by
  have hne : ∀ d ∈ ['n', 't', 'f', '"', '[', '\x7b'], c ≠ d := by
    rintro d hd rfl
    simp only [List.mem_cons, List.not_mem_nil, or_false] at hd
    rcases hd with rfl | rfl | rfl | rfl | rfl | rfl <;> revert hc <;> decide
  simp only [List.mem_cons, List.not_mem_nil, or_false, forall_eq_or_imp, forall_eq] at hne
  obtain ⟨hn, ht, hf, hquote, hbracket, hbrace⟩ := hne
  rw [value?, skipSpace_cons (isSpace_of_number hc)]
  split <;> simp_all

theorem isRead_number {text : String} (h : IsNumber text) : IsRead (.number text) := by
  intro fuel rest hfuel hrest
  obtain ⟨c, cs, htext, hc⟩ := h.exists_head
  have hread := h rest hrest
  simp only [Json.chars, htext, List.length_cons, List.cons_append] at hfuel hread ⊢
  obtain ⟨fuel, rfl⟩ : ∃ m, fuel = m + 1 := ⟨fuel - 1, by omega⟩
  rw [value?_number hc, hread, Json.document]

theorem exists_chars (json : Json) (h : Exact json) :
    ∃ c cs, json.chars = c :: cs ∧ isSpace c = false ∧ c ≠ ']' := by
  cases h with
  | number htext =>
    obtain ⟨c, cs, htext, hc⟩ := htext.exists_head
    refine ⟨c, cs, htext, isSpace_of_number hc, ?_⟩
    rintro rfl
    revert hc
    decide
  | bool b => cases b <;> exact ⟨_, _, rfl, rfl, by decide⟩
  | @array items h => cases items <;> exact ⟨_, _, rfl, rfl, by decide⟩
  | @object fields h => cases fields <;> exact ⟨_, _, rfl, rfl, by decide⟩
  | null => exact ⟨_, _, rfl, rfl, by decide⟩
  | string s => exact ⟨_, _, rfl, rfl, by decide⟩

/-- The text after an item or a field starts with a comma or a bracket. -/
theorem numberEnds_cons {c : Char} (hc : c ∈ [',', ']', '\x7d']) (cs : List Char) :
    NumberEnds (c :: cs) := by
  rintro d ⟨⟩
  simp only [List.mem_cons, List.not_mem_nil, or_false] at hc
  rcases hc with rfl | rfl | rfl <;> decide

theorem items?_chars {item : Json} {items : List Json} (hitem : IsRead item)
    (hitems : ∀ next ∈ items, IsRead next) (fuel : Nat) (rest : List Char)
    (hfuel : 2 * (item.chars ++ Json.itemsChars items).length ≤ fuel) :
    items? fuel (item.chars ++ Json.itemsChars items ++ rest) =
      some (Json.documents (item :: items), rest) := by
  induction items generalizing item fuel with
  | nil =>
    simp only [Json.itemsChars, List.length_append, List.length_singleton] at hfuel
    obtain ⟨fuel, rfl⟩ : ∃ m, fuel = m + 1 := ⟨fuel - 1, by omega⟩
    have hread := hitem fuel (']' :: rest) (by omega) (numberEnds_cons (by decide) rest)
    rw [items?, Json.itemsChars, List.append_assoc, List.singleton_append, hread]
    rfl
  | cons next items ih =>
    rw [List.forall_mem_cons] at hitems
    simp only [Json.itemsChars, List.length_append, List.length_cons] at hfuel
    obtain ⟨fuel, rfl⟩ : ∃ m, fuel = m + 1 := ⟨fuel - 1, by omega⟩
    have hread := hitem fuel (',' :: (next.chars ++ Json.itemsChars items ++ rest)) (by omega)
      (numberEnds_cons (by decide) _)
    have hnext := ih hitems.1 hitems.2 fuel (by rw [List.length_append]; omega)
    have happend : item.chars ++ Json.itemsChars (next :: items) ++ rest =
        item.chars ++ ',' :: (next.chars ++ Json.itemsChars items ++ rest) := by
      simp [Json.itemsChars]
    rw [items?, happend, hread]
    simp only [bind, Option.bind, skipSpace_cons (c := ',') rfl, hnext]
    rfl

theorem fields?_chars (name : String) {value : Json} {fields : List (String × Json)}
    (hvalue : IsRead value) (hfields : ∀ field ∈ fields, IsRead field.2) (fuel : Nat)
    (rest : List Char)
    (hfuel : 2 * (value.chars ++ Json.fieldsChars fields).length ≤ fuel) :
    fields? fuel (Json.quotedChars name ++ ':' :: value.chars ++ Json.fieldsChars fields ++ rest) =
      some (Json.fieldDocuments ((name, value) :: fields), rest) := by
  induction fields generalizing name value fuel with
  | nil =>
    simp only [Json.fieldsChars, List.length_append, List.length_singleton] at hfuel
    obtain ⟨fuel, rfl⟩ : ∃ m, fuel = m + 1 := ⟨fuel - 1, by omega⟩
    have hread := hvalue fuel ('\x7d' :: rest) (by omega) (numberEnds_cons (by decide) rest)
    have hname := stringBody?_append name (':' :: (value.chars ++ '\x7d' :: rest))
    have happend : Json.quotedChars name ++ ':' :: value.chars ++ Json.fieldsChars [] ++ rest =
        '"' :: (name.toList.flatMap Json.escapedChar ++
          '"' :: ':' :: (value.chars ++ '\x7d' :: rest)) := by
      simp [Json.quotedChars, Json.fieldsChars]
    rw [fields?, happend, skipSpace_cons (c := '"') rfl]
    simp only [bind, Option.bind, hname, skipSpace_cons (c := ':') rfl, hread]
    rfl
  | cons field fields ih =>
    obtain ⟨key, next⟩ := field
    rw [List.forall_mem_cons] at hfields
    simp only [Json.fieldsChars, List.length_append, List.length_cons] at hfuel
    obtain ⟨fuel, rfl⟩ : ∃ m, fuel = m + 1 := ⟨fuel - 1, by omega⟩
    have hnextRead : IsRead next := hfields.1
    have hnext := ih key hnextRead hfields.2 fuel
      (by rw [List.length_append]; omega)
    generalize htail :
      Json.quotedChars key ++ ':' :: next.chars ++ Json.fieldsChars fields ++ rest = tail at hnext
    have hread := hvalue fuel (',' :: tail) (by omega) (numberEnds_cons (by decide) _)
    have hname := stringBody?_append name (':' :: (value.chars ++ ',' :: tail))
    have happend : Json.quotedChars name ++ ':' :: value.chars ++
          Json.fieldsChars ((key, next) :: fields) ++ rest =
        '"' :: (name.toList.flatMap Json.escapedChar ++
          '"' :: ':' :: (value.chars ++ ',' :: tail)) := by
      simp [Json.quotedChars, Json.fieldsChars, ← htail]
    rw [fields?, happend, skipSpace_cons (c := '"') rfl]
    simp only [bind, Option.bind, hname, skipSpace_cons (c := ':') rfl, hread,
      skipSpace_cons (c := ',') rfl, hnext]
    rfl

theorem isRead_of_succ {json : Json} (hexact : Exact json)
    (h : ∀ fuel rest, 2 * json.chars.length ≤ fuel + 1 → NumberEnds rest →
      value? (fuel + 1) (json.chars ++ rest) = some (json.document, rest)) : IsRead json := by
  intro fuel rest hfuel hrest
  obtain ⟨c, cs, hchars, -⟩ := exists_chars json hexact
  cases fuel with
  | zero => simp [hchars] at hfuel
  | succ fuel => exact h fuel rest hfuel hrest

theorem isRead_string (s : String) : IsRead (.string s) := by
  refine isRead_of_succ (.string s) fun fuel rest _ _ => ?_
  have happend : (Json.string s).chars ++ rest =
      '"' :: (s.toList.flatMap Json.escapedChar ++ '"' :: rest) := by
    simp [Json.chars, Json.quotedChars]
  rw [happend, value?, skipSpace_cons rfl]
  simp only [stringBody?_append, Option.map_some, Json.document]

theorem isRead_array {items : List Json} (hexact : ∀ item ∈ items, Exact item)
    (hitems : ∀ item ∈ items, IsRead item) : IsRead (.array items) := by
  refine isRead_of_succ (.array hexact) fun fuel rest hfuel _ => ?_
  cases items with
  | nil => rfl
  | cons item items =>
    rw [List.forall_mem_cons] at hexact hitems
    have happend : (Json.array (item :: items)).chars =
        '[' :: (item.chars ++ Json.itemsChars items) :=
      rfl
    rw [happend, List.length_cons] at hfuel
    have hread := items?_chars hitems.1 hitems.2 fuel rest (by omega)
    -- An item does not start with the bracket of an empty array.
    obtain ⟨c, cs, hchars, hspace, hclose⟩ := exists_chars item hexact.1
    rw [happend, List.cons_append, value?, skipSpace_cons rfl]
    rw [hchars, List.cons_append, List.cons_append] at hread ⊢
    simp only [skipSpace_cons hspace]
    split
    · rename_i heq
      exact absurd (List.cons.inj heq).1 hclose
    · rw [hread]
      rfl

theorem isRead_object {fields : List (String × Json)} (hexact : ∀ field ∈ fields, Exact field.2)
    (hfields : ∀ field ∈ fields, IsRead field.2) : IsRead (.object fields) := by
  refine isRead_of_succ (.object hexact) fun fuel rest hfuel _ => ?_
  cases fields with
  | nil => rfl
  | cons field fields =>
    obtain ⟨name, value⟩ := field
    rw [List.forall_mem_cons] at hfields
    have happend : (Json.object ((name, value) :: fields)).chars =
        '\x7b' :: (Json.quotedChars name ++ ':' :: value.chars ++ Json.fieldsChars fields) :=
      rfl
    rw [happend, List.length_cons] at hfuel
    have hvalue : IsRead value := hfields.1
    have hread := fields?_chars name hvalue hfields.2 fuel rest (by
      simp only [List.length_append, List.length_cons] at hfuel ⊢
      omega)
    rw [happend, List.cons_append, value?, skipSpace_cons rfl]
    simp only [Json.quotedChars, List.cons_append] at hread ⊢
    simp only [skipSpace_cons (c := '"') rfl]
    change Option.map _ (fields? fuel _) = _
    rw [hread]
    rfl

theorem Exact.isRead {json : Json} (h : Exact json) : IsRead json := by
  induction h with
  | null => exact isRead_of_succ .null fun _ _ _ _ => rfl
  | bool b => cases b <;> exact isRead_of_succ (.bool _) fun _ _ _ _ => rfl
  | number htext => exact isRead_number htext
  | string s => exact isRead_string s
  | array hitems ih => exact isRead_array hitems ih
  | object hfields ih => exact isRead_object hfields ih

/-- The compact text of a value reads as its document, and nothing is left. -/
theorem leading?_toText {json : Json} (h : Exact json) :
    leading? json.toText = some (json.document, []) := by
  have hread := h.isRead (2 * json.chars.length + 1) [] (by omega) (by simp [NumberEnds])
  rw [List.append_nil] at hread
  rw [leading?, Json.toText, String.toList_ofList, hread]

theorem ofText?_toText {json : Json} (h : Exact json) :
    ofText? json.toText = some json.document := by
  rw [ofText?, leading?_toText h]
  rfl

end Document
end SeriesSql
