import Mathlib
import SeriesSql.Proofs.Json.Document

/-!
# Numbers as they are written

A JSON number has digits, perhaps a minus sign before them, perhaps a fraction and perhaps an
exponent. A reader keeps all of it as it is written except for the exponent, whose letter becomes
small and which gets a sign if it has none. What it keeps is again such a number, and is read as
it is.
-/

namespace SeriesSql.Document

structure WrittenExponent where
  letter : Char
  sign : Option Char
  digits : List Char
  letter_mem : letter = 'e' ∨ letter = 'E'
  sign_mem : ∀ c ∈ sign, c = '+' ∨ c = '-'
  digits_spec : Numeral.Digits digits

def WrittenExponent.chars (e : WrittenExponent) : List Char :=
  e.letter :: (e.sign.toList ++ e.digits)

/-- An exponent as a reader keeps it. -/
def WrittenExponent.kept (e : WrittenExponent) : WrittenExponent where
  letter := 'e'
  sign := some (e.sign.getD '+')
  digits := e.digits
  letter_mem := .inl rfl
  sign_mem := by
    rintro c ⟨⟩
    cases hsign : e.sign with
    | none => exact .inl rfl
    | some sign => exact e.sign_mem sign hsign
  digits_spec := e.digits_spec

structure WrittenNumber where
  negative : Bool
  whole : List Char
  /-- The digits after the point. Without any there is no point. -/
  fraction : List Char
  exponent : Option WrittenExponent
  whole_spec : Numeral.Digits whole
  whole_plain : whole.length = 1 ∨ whole.head? ≠ some '0'
  fraction_spec : ∀ c ∈ fraction, c.isDigit

namespace WrittenNumber

def fractionChars (n : WrittenNumber) : List Char :=
  if n.fraction = [] then [] else '.' :: n.fraction

def exponentChars (n : WrittenNumber) : List Char :=
  (n.exponent.map WrittenExponent.chars).getD []

def magnitude (n : WrittenNumber) : List Char :=
  n.whole ++ n.fractionChars ++ n.exponentChars

def chars (n : WrittenNumber) : List Char :=
  if n.negative then '-' :: n.magnitude else n.magnitude

/-- A number as a reader keeps it. -/
def kept (n : WrittenNumber) : WrittenNumber :=
  { n with exponent := n.exponent.map WrittenExponent.kept }

def text (n : WrittenNumber) : String :=
  String.ofList n.kept.chars

end WrittenNumber

/-! ### Every number that is read is written so -/

theorem WrittenExponent.chars_kept (e : WrittenExponent) :
    e.kept.chars = 'e' :: e.sign.getD '+' :: e.digits :=
  rfl

theorem signedExponent?_append (e : WrittenExponent) {rest : List Char}
    (hrest : ∀ c ∈ rest.head?, c.isDigit = false) :
    signedExponent? (e.sign.toList ++ e.digits ++ rest) = some (e.kept.chars, rest) := by
  have hread := digits?_append e.digits_spec hrest
  rw [e.chars_kept]
  cases hsign : e.sign with
  | none =>
    obtain ⟨hne, hdigits⟩ := e.digits_spec
    obtain ⟨c, ds, hds⟩ := List.exists_cons_of_ne_nil hne
    rw [hds] at hread hdigits ⊢
    -- A digit is not taken for the sign that is missing.
    have hsign : ∀ sign, sign.isDigit = false → ∀ cs, c :: (ds ++ rest) ≠ sign :: cs := by
      rintro sign hsign cs heq
      have hc := hdigits c List.mem_cons_self
      rw [(List.cons.inj heq).1, hsign] at hc
      cases hc
    rw [Option.toList_none, List.nil_append, signedExponent?, hread]
    · rfl
    · exact hsign '+' rfl
    · exact hsign '-' rfl
  | some sign =>
    rcases e.sign_mem sign hsign with rfl | rfl
    · simp only [Option.toList_some, List.cons_append, List.nil_append, signedExponent?, hread]
      rfl
    · simp only [Option.toList_some, List.cons_append, List.nil_append, signedExponent?, hread]
      rfl

namespace WrittenNumber

variable (n : WrittenNumber)

theorem whole?_append {rest : List Char} (hrest : ∀ c ∈ rest.head?, c.isDigit = false) :
    whole? (n.whole ++ rest) = some (n.whole, rest) := by
  rw [whole?, digits?_append n.whole_spec hrest, Option.filter_some, if_pos]
  simpa using n.whole_plain

theorem fraction?_append {rest : List Char}
    (hrest : ∀ c ∈ rest.head?, c.isDigit = false ∧ c ≠ '.') :
    fraction? (n.fractionChars ++ rest) = some (n.fractionChars, rest) := by
  rw [fractionChars]
  split
  · rw [List.nil_append, fraction?]
    rintro cs rfl
    exact (hrest '.' rfl).2 rfl
  · rename_i hne
    rw [List.cons_append, fraction?, digits?_append ⟨hne, n.fraction_spec⟩
      fun c hc => (hrest c hc).1]
    rfl

theorem exponent?_append {rest : List Char} (hrest : NumberEnds rest) :
    exponent? (n.exponentChars ++ rest) = some (n.kept.exponentChars, rest) := by
  rw [exponentChars, exponentChars, kept]
  cases n.exponent with
  | none =>
    change exponent? rest = some ([], rest)
    rw [exponent?]
    · rintro cs rfl
      exact (hrest 'e' rfl).2.2.1 rfl
    · rintro cs rfl
      exact (hrest 'E' rfl).2.2.2 rfl
  | some e =>
    have hread := signedExponent?_append e fun c hc => (hrest c hc).1
    simp only [Option.map_some, Option.getD_some, WrittenExponent.chars, List.cons_append]
    rcases e.letter_mem with hletter | hletter
    · rw [hletter, exponent?, hread]
      rfl
    · rw [hletter, exponent?, hread]
      rfl

/-- After the digits before it, an exponent or the end of the number is no digit and no point. -/
theorem head?_exponentChars {rest : List Char} (hrest : NumberEnds rest) :
    ∀ c ∈ (n.exponentChars ++ rest).head?, c.isDigit = false ∧ c ≠ '.' := by
  rw [exponentChars]
  cases n.exponent with
  | none => exact fun c hc => ⟨(hrest c hc).1, (hrest c hc).2.1⟩
  | some e =>
    rintro c ⟨⟩
    rcases e.letter_mem with hletter | hletter <;> rw [hletter] <;> decide

theorem head?_fractionChars {rest : List Char} (hrest : ∀ c ∈ rest.head?, c.isDigit = false) :
    ∀ c ∈ (n.fractionChars ++ rest).head?, c.isDigit = false := by
  rw [fractionChars]
  split
  · exact hrest
  · rintro c ⟨⟩
    rfl

theorem magnitude?_append {rest : List Char} (hrest : NumberEnds rest) :
    magnitude? (n.magnitude ++ rest) = some (n.kept.magnitude, rest) := by
  have hexponent := n.head?_exponentChars hrest
  have hfraction := n.head?_fractionChars fun c hc => (hexponent c hc).1
  rw [magnitude, List.append_assoc, List.append_assoc, magnitude?]
  simp only [Option.bind_eq_bind, Option.bind_some, n.whole?_append hfraction,
    n.fraction?_append hexponent, n.exponent?_append hrest]
  rfl

theorem exists_digit_magnitude : ∃ c cs, n.magnitude = c :: cs ∧ c.isDigit := by
  obtain ⟨c, cs, hwhole⟩ := List.exists_cons_of_ne_nil n.whole_spec.1
  refine ⟨c, cs ++ n.fractionChars ++ n.exponentChars, by simp [magnitude, hwhole], ?_⟩
  exact n.whole_spec.2 c (hwhole ▸ List.mem_cons_self)

theorem exists_head_chars : ∃ c cs, n.chars = c :: cs ∧ (c.isDigit ∨ c = '-') := by
  rw [chars]
  split
  · exact ⟨'-', _, rfl, .inr rfl⟩
  · obtain ⟨c, cs, hmagnitude, hc⟩ := n.exists_digit_magnitude
    exact ⟨c, cs, hmagnitude, .inl hc⟩

/-- A number is read whatever follows it, as long as that does not continue it. -/
theorem number?_append {rest : List Char} (hrest : NumberEnds rest) :
    number? (n.chars ++ rest) = some (.number n.text, rest) := by
  have hread := n.magnitude?_append hrest
  rw [text, chars, chars]
  change number? ((if n.negative then _ else _) ++ rest) =
    some (.number (String.ofList (if n.negative then _ else _)), rest)
  split
  · rw [List.cons_append, number?, hread]
    rfl
  · obtain ⟨c, cs, hmagnitude, hc⟩ := n.exists_digit_magnitude
    rw [number?, hread]
    · rfl
    · rintro tail heq
      rw [hmagnitude, List.cons_append] at heq
      rw [(List.cons.inj heq).1] at hc
      cases hc

theorem kept_kept : n.kept.kept = n.kept := by
  rw [kept, kept]
  cases n.exponent <;> rfl

/-- What a reader keeps is read as it is. -/
theorem isNumber_text : IsNumber n.text := by
  intro rest hrest
  have hread := n.kept.number?_append hrest
  rwa [text, kept_kept, ← text, ← String.toList_ofList (l := n.kept.chars), ← text] at hread

/-- A number without an exponent is kept as it is. -/
theorem text_of_no_exponent (h : n.exponent = none) : n.text = String.ofList n.chars := by
  have hkept : n.kept = n := by
    obtain ⟨negative, whole, fraction, exponent, _, _, _⟩ := n
    obtain rfl : exponent = none := h
    rfl
  rw [text, hkept]

/-! ### Numbers that are written as integers -/

/-- A number that is written as an integer, with neither a fraction nor an exponent. -/
def IsWhole : Prop :=
  n.fraction = [] ∧ n.exponent = none

theorem mem_chars {c : Char} (hc : c ∈ n.chars) :
    c.isDigit ∨ c ∈ ['-', '+', '.', 'e', 'E'] := by
  have hexponent : c ∈ n.exponentChars → c.isDigit ∨ c ∈ ['-', '+', '.', 'e', 'E'] := by
    intro hc
    rw [exponentChars] at hc
    cases hexp : n.exponent with
    | none =>
      rw [hexp] at hc
      cases hc
    | some e =>
      rw [hexp, Option.map_some, Option.getD_some, WrittenExponent.chars, List.mem_cons,
        List.mem_append, Option.mem_toList] at hc
      rcases hc with rfl | hc | hc
      · rcases e.letter_mem with hletter | hletter <;> simp [hletter]
      · rcases e.sign_mem c hc with rfl | rfl <;> simp
      · exact .inl (e.digits_spec.2 c hc)
  have hfraction : c ∈ n.fractionChars → c.isDigit ∨ c ∈ ['-', '+', '.', 'e', 'E'] := by
    intro hc
    rw [fractionChars] at hc
    split at hc
    · cases hc
    · rcases List.mem_cons.1 hc with rfl | hc
      · simp
      · exact .inl (n.fraction_spec c hc)
  have hmagnitude : c ∈ n.magnitude → c.isDigit ∨ c ∈ ['-', '+', '.', 'e', 'E'] := by
    rw [magnitude, List.mem_append, List.mem_append]
    rintro ((hc | hc) | hc)
    · exact .inl (n.whole_spec.2 c hc)
    · exact hfraction hc
    · exact hexponent hc
  rw [chars] at hc
  split at hc
  · rcases List.mem_cons.1 hc with rfl | hc
    · simp
    · exact hmagnitude hc
  · exact hmagnitude hc

/-- A point or the letter of an exponent shows that a number is not written as an integer. -/
theorem exists_mark (h : ¬ n.IsWhole) : ∃ c ∈ n.chars, c = '.' ∨ c = 'e' ∨ c = 'E' := by
  have hsubset : n.magnitude ⊆ n.chars := by
    rw [chars]
    split
    · exact List.subset_cons_self _ _
    · exact List.Subset.refl _
  rw [IsWhole, not_and_or] at h
  rcases h with hfraction | hexponent
  · refine ⟨'.', hsubset ?_, .inl rfl⟩
    simp [magnitude, fractionChars, hfraction]
  · obtain ⟨e, he⟩ := Option.ne_none_iff_exists'.1 hexponent
    refine ⟨e.letter, hsubset ?_, .inr e.letter_mem⟩
    simp [magnitude, exponentChars, he, WrittenExponent.chars]

theorem isWhole_kept : n.kept.IsWhole ↔ n.IsWhole := by
  rw [IsWhole, IsWhole, kept, Option.map_eq_none_iff]

theorem text_of_isWhole (h : n.IsWhole) : n.text = String.ofList n.chars :=
  n.text_of_no_exponent h.2

theorem chars_of_isWhole (h : n.IsWhole) :
    n.chars = if n.negative then '-' :: n.whole else n.whole := by
  have hmagnitude : n.magnitude = n.whole := by
    simp [magnitude, fractionChars, exponentChars, h.1, h.2]
  rw [chars, hmagnitude]

end WrittenNumber
end SeriesSql.Document
