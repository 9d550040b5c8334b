import Mathlib
import SeriesSql.Proofs.Json.Number

/-!
# Documents as they are written

A document is read from a text in which it stands as the grammar has it: white space may stand
before each token, items and fields are parted by commas, and every number stands with the
characters it is written with. The structure is the same on both sides; only numbers differ, by what
a reader keeps of them.
-/

namespace SeriesSql.Document

/-- The structure of a JSON text, with every number as it is written. -/
inductive Written where
  | null
  | bool (b : Bool)
  | number (n : WrittenNumber)
  | string (text : Option String)
  | array (items : List Written)
  | object (fields : List (Option String × Written))

namespace Written

mutual

def document : Written → Document
  | null => .null
  | bool b => .bool b
  | number n => .number n.text
  | string text => .string text
  | array items => .array (documents items)
  | object fields => .object (fieldDocuments fields)

def documents : List Written → List Document
  | [] => []
  | item :: rest => item.document :: documents rest

def fieldDocuments : List (Option String × Written) → List (Option String × Document)
  | [] => []
  | (name, value) :: rest => (name, value.document) :: fieldDocuments rest

end

theorem documents_eq_map (items : List Written) : documents items = items.map document := by
  induction items with
  | nil => rfl
  | cons item rest ih => rw [documents, ih, List.map_cons]

end Written

/-- A text starts with a token, perhaps after white space, and the rest follows. -/
def Starts (token cs rest : List Char) : Prop :=
  skipSpace cs = token ++ rest

mutual

/-- A text starts with a value that is written so, and the rest follows. -/
inductive Spells : Written → List Char → List Char → Prop where
  | null {cs rest : List Char} :
    Starts ['n', 'u', 'l', 'l'] cs rest → Spells .null cs rest
  | true {cs rest : List Char} :
    Starts ['t', 'r', 'u', 'e'] cs rest → Spells (.bool true) cs rest
  | false {cs rest : List Char} :
    Starts ['f', 'a', 'l', 's', 'e'] cs rest → Spells (.bool false) cs rest
  | number (n : WrittenNumber) {cs rest : List Char} :
    Starts n.chars cs rest → Spells (.number n) cs rest
  | string {text : Option String} {cs body rest : List Char} :
    Starts ['"'] cs body → stringBody? body = some (text, rest) → Spells (.string text) cs rest
  | emptyArray {cs inner rest : List Char} :
    Starts ['['] cs inner → Starts [']'] inner rest → Spells (.array []) cs rest
  | array {items : List Written} {cs inner rest : List Char} :
    Starts ['['] cs inner → SpellsItems items inner rest → Spells (.array items) cs rest
  | emptyObject {cs inner rest : List Char} :
    Starts ['\x7b'] cs inner → Starts ['\x7d'] inner rest → Spells (.object []) cs rest
  | object {fields : List (Option String × Written)} {cs inner rest : List Char} :
    Starts ['\x7b'] cs inner → SpellsFields fields inner rest → Spells (.object fields) cs rest

inductive SpellsItems : List Written → List Char → List Char → Prop where
  | last {item : Written} {cs after rest : List Char} :
    Spells item cs after → Starts [']'] after rest → SpellsItems [item] cs rest
  | more {item : Written} {items : List Written} {cs after more rest : List Char} :
    Spells item cs after → Starts [','] after more → SpellsItems items more rest →
    SpellsItems (item :: items) cs rest

inductive SpellsFields : List (Option String × Written) → List Char → List Char → Prop where
  | last {name : Option String} {value : Written} {cs named colon valued after rest : List Char} :
    Starts ['"'] cs named → stringBody? named = some (name, colon) → Starts [':'] colon valued →
    Spells value valued after → Starts ['\x7d'] after rest → SpellsFields [(name, value)] cs rest
  | more {name : Option String} {value : Written} {fields : List (Option String × Written)}
    {cs named colon valued after more rest : List Char} :
    Starts ['"'] cs named → stringBody? named = some (name, colon) → Starts [':'] colon valued →
    Spells value valued after → Starts [','] after more → SpellsFields fields more rest →
    SpellsFields ((name, value) :: fields) cs rest

end

/-- A whole text is a value that is written so. -/
def Written.IsText (written : Written) (s : String) : Prop :=
  ∃ rest, Spells written s.toList rest ∧ isSpaces rest

/-! ### White space before a token -/

/-- What the readers of some fuel take is written as the grammar has it. -/
structure Sound (fuel : Nat) : Prop where
  value {cs rest : List Char} {document : Document} (h : value? fuel cs = some (document, rest)) :
    ∃ written : Written, written.document = document ∧ Spells written cs rest
  items {cs rest : List Char} {documents : List Document}
    (h : items? fuel cs = some (documents, rest)) :
    ∃ items, Written.documents items = documents ∧ SpellsItems items cs rest
  fields {cs rest : List Char} {documents : List (Option String × Document)}
    (h : fields? fuel cs = some (documents, rest)) :
    ∃ fields, Written.fieldDocuments fields = documents ∧ SpellsFields fields cs rest

section

variable {fuel : Nat} {cs rest : List Char}

end

theorem Starts.length_le {token cs rest : List Char} (h : Starts token cs rest) :
    token.length + rest.length ≤ cs.length := by
  rw [← List.length_append, ← h]
  exact (List.dropWhile_sublist isSpace).length_le

theorem numberEnds_of_isSpace {c : Char} (hc : isSpace c = true) (cs : List Char) :
    NumberEnds (c :: cs) := by
  rintro d ⟨⟩
  simp only [isSpace, Bool.or_eq_true, beq_iff_eq] at hc
  rcases hc with ((rfl | rfl) | rfl) | rfl <;> decide

/-- A comma or a bracket ends a number, and so does white space before it. -/
theorem Starts.numberEnds {c : Char} {cs rest : List Char} (h : Starts [c] cs rest)
    (hc : c ∈ [',', ']', '\x7d']) : NumberEnds cs := by
  cases cs with
  | nil => cases h
  | cons d cs =>
    cases hd : isSpace d with
    | true => exact numberEnds_of_isSpace hd cs
    | false =>
      rw [Starts, skipSpace_cons hd] at h
      obtain rfl := (List.cons.inj h).1
      exact numberEnds_cons hc cs

theorem numberEnds_of_isSpaces {cs : List Char} (h : isSpaces cs) : NumberEnds cs := by
  cases cs with
  | nil => simp [NumberEnds]
  | cons d cs =>
    cases hd : isSpace d with
    | true => exact numberEnds_of_isSpace hd cs
    | false =>
      rw [isSpaces, skipSpace_cons hd] at h
      cases h

theorem value?_skipSpace (fuel : Nat) (cs : List Char) :
    value? fuel (skipSpace cs) = value? fuel cs := by
  cases fuel with
  | zero => rfl
  | succ fuel => rw [value?, value?, skipSpace, skipSpace, List.dropWhile_idempotent]

theorem items?_skipSpace (fuel : Nat) (cs : List Char) :
    items? fuel (skipSpace cs) = items? fuel cs := by
  cases fuel with
  | zero => rfl
  | succ fuel => rw [items?, items?, value?_skipSpace]

theorem fields?_skipSpace (fuel : Nat) (cs : List Char) :
    fields? fuel (skipSpace cs) = fields? fuel cs := by
  cases fuel with
  | zero => rfl
  | succ fuel => rw [fields?, fields?, skipSpace, skipSpace, List.dropWhile_idempotent]

theorem length_lt_of_pieces? {cs rest : List Char} {pieces : List Piece}
    (h : pieces? cs = some (pieces, rest)) : rest.length < cs.length := by
  fun_induction pieces? cs generalizing pieces with
  | case1 => cases h
  | case2 rest =>
    obtain ⟨-, rfl⟩ := Prod.mk.inj (Option.some.inj h)
    exact Nat.lt_succ_self _
  | case3 a b c d more ih =>
    simp only [Option.bind_eq_bind, Option.bind_eq_some_iff, Prod.exists] at h
    obtain ⟨n, -, pieces, after, hmore, heq⟩ := h
    obtain ⟨-, rfl⟩ := Prod.mk.inj (Option.some.inj heq)
    have := ih hmore
    simp only [List.length_cons]
    omega
  | case4 c more hcode ih =>
    simp only [Option.bind_eq_bind, Option.bind_eq_some_iff, Prod.exists] at h
    obtain ⟨d, -, pieces, after, hmore, heq⟩ := h
    obtain ⟨-, rfl⟩ := Prod.mk.inj (Option.some.inj heq)
    have := ih hmore
    simp only [List.length_cons]
    omega
  | case5 => cases h
  | case6 c more _ _ _ hcontrol ih =>
    simp only [Option.bind_eq_bind, Option.bind_eq_some_iff, Prod.exists] at h
    obtain ⟨pieces, after, hmore, heq⟩ := h
    obtain ⟨-, rfl⟩ := Prod.mk.inj (Option.some.inj heq)
    have := ih hmore
    simp only [List.length_cons]
    omega

theorem length_lt_of_stringBody? {cs rest : List Char} {text : Option String}
    (h : stringBody? cs = some (text, rest)) : rest.length < cs.length := by
  obtain ⟨⟨pieces, after⟩, hpieces, heq⟩ := Option.map_eq_some_iff.1 h
  obtain ⟨-, rfl⟩ := Prod.mk.inj heq
  exact length_lt_of_pieces? hpieces

mutual

theorem Spells.length_lt {written : Written} {cs rest : List Char}
    (h : Spells written cs rest) : rest.length < cs.length := by
  match h with
  | .null hstarts | .true hstarts | .false hstarts =>
    have := hstarts.length_le
    simp only [List.length_cons] at this
    omega
  | .number n hstarts =>
    obtain ⟨c, cs, hchars, -⟩ := n.exists_head_chars
    have := hstarts.length_le
    simp only [hchars, List.length_cons] at this
    omega
  | .string hstarts hbody =>
    have := hstarts.length_le
    have := length_lt_of_stringBody? hbody
    omega
  | .emptyArray hstarts hend | .emptyObject hstarts hend =>
    have := hstarts.length_le
    have := hend.length_le
    simp only [List.length_singleton] at *
    omega
  | .array hstarts hitems =>
    have := hstarts.length_le
    have := hitems.length_lt
    omega
  | .object hstarts hfields =>
    have := hstarts.length_le
    have := hfields.length_lt
    omega

theorem SpellsItems.length_lt {items : List Written} {cs rest : List Char}
    (h : SpellsItems items cs rest) : rest.length < cs.length := by
  match h with
  | .last hitem hend =>
    have := hitem.length_lt
    have := hend.length_le
    omega
  | .more hitem hcomma hitems =>
    have := hitem.length_lt
    have := hcomma.length_le
    have := hitems.length_lt
    omega

theorem SpellsFields.length_lt {fields : List (Option String × Written)} {cs rest : List Char}
    (h : SpellsFields fields cs rest) : rest.length < cs.length := by
  match h with
  | .last hquote hname hcolon hvalue hend =>
    have := hquote.length_le
    have := length_lt_of_stringBody? hname
    have := hcolon.length_le
    have := hvalue.length_lt
    have := hend.length_le
    omega
  | .more hquote hname hcolon hvalue hcomma hfields =>
    have := hquote.length_le
    have := length_lt_of_stringBody? hname
    have := hcolon.length_le
    have := hvalue.length_lt
    have := hcomma.length_le
    have := hfields.length_lt
    omega

end

/-- A value does not start with the bracket that ends an array. -/
theorem Spells.ne_close {written : Written} {cs rest : List Char} (h : Spells written cs rest)
    (tail : List Char) : skipSpace cs ≠ ']' :: tail := by
  intro hclose
  cases h with
  | number n hstarts =>
    obtain ⟨c, _, hchars, hc⟩ := n.exists_head_chars
    rw [Starts, hchars, hclose] at hstarts
    rw [← (List.cons.inj hstarts).1] at hc
    revert hc
    decide
  | _ hstarts =>
    rw [Starts, hclose] at hstarts
    exact absurd (List.cons.inj hstarts).1 (by decide)

theorem SpellsItems.ne_close {items : List Written} {cs rest : List Char}
    (h : SpellsItems items cs rest) (tail : List Char) : skipSpace cs ≠ ']' :: tail := by
  cases h with
  | last hitem => exact hitem.ne_close tail
  | more hitem => exact hitem.ne_close tail

theorem SpellsFields.ne_close {fields : List (Option String × Written)} {cs rest : List Char}
    (h : SpellsFields fields cs rest) (tail : List Char) : skipSpace cs ≠ '\x7d' :: tail := by
  intro hclose
  cases h with
  | last hquote | more hquote =>
    rw [Starts, hclose] at hquote
    exact absurd (List.cons.inj hquote).1 (by decide)

mutual

/-- A value that is written in front of a text is read from it. Two steps of the reader for each
character it takes are enough. -/
theorem Spells.read {written : Written} {cs rest : List Char} (h : Spells written cs rest)
    (hrest : NumberEnds rest) {fuel : Nat} (hfuel : 2 * cs.length ≤ fuel + 2 * rest.length) :
    value? fuel cs = some (written.document, rest) := by
  have hlt := h.length_lt
  obtain ⟨fuel, rfl⟩ : ∃ m, fuel = m + 1 := ⟨fuel - 1, by omega⟩
  match h with
  | .null hstarts =>
    rw [value?, hstarts]
    rfl
  | .true hstarts =>
    rw [value?, hstarts]
    rfl
  | .false hstarts =>
    rw [value?, hstarts]
    rfl
  | .number n hstarts =>
    obtain ⟨c, tail, hchars, hc⟩ := n.exists_head_chars
    have hread := n.number?_append hrest
    rw [← value?_skipSpace, hstarts]
    rw [hchars] at hread ⊢
    rw [List.cons_append, value?_number hc]
    exact hread
  | .string hstarts hbody =>
    rw [value?, hstarts]
    simp only [List.singleton_append, hbody]
    rfl
  | .emptyArray hstarts hend =>
    rw [value?, hstarts]
    simp only [List.singleton_append]
    rw [hend]
    rfl
  | .array hstarts hitems =>
    have hinner := hstarts.length_le
    rw [List.length_singleton] at hinner
    rw [value?, hstarts]
    simp only [List.singleton_append]
    split
    · rename_i hclose
      exact absurd hclose (hitems.ne_close _)
    · rw [items?_skipSpace, hitems.read (by omega)]
      rfl
  | .emptyObject hstarts hend =>
    rw [value?, hstarts]
    simp only [List.singleton_append]
    rw [hend]
    rfl
  | .object hstarts hfields =>
    have hinner := hstarts.length_le
    rw [List.length_singleton] at hinner
    rw [value?, hstarts]
    simp only [List.singleton_append]
    split
    · rename_i hclose
      exact absurd hclose (hfields.ne_close _)
    · rw [fields?_skipSpace, hfields.read (by omega)]
      rfl

theorem SpellsItems.read {items : List Written} {cs rest : List Char}
    (h : SpellsItems items cs rest) {fuel : Nat}
    (hfuel : 2 * cs.length ≤ fuel + 2 * rest.length) :
    items? fuel cs = some (Written.documents items, rest) := by
  have hlt := h.length_lt
  obtain ⟨fuel, rfl⟩ : ∃ m, fuel = m + 1 := ⟨fuel - 1, by omega⟩
  match h with
  | .last hitem hend =>
    have hafter := hend.length_le
    rw [List.length_singleton] at hafter
    rw [items?, hitem.read (hend.numberEnds (by decide)) (by omega)]
    simp only [Option.bind_eq_bind, Option.bind_some]
    rw [hend]
    rfl
  | .more hitem hcomma hitems =>
    have hbefore := hitem.length_lt
    have hafter := hcomma.length_le
    have hmore := hitems.length_lt
    rw [List.length_singleton] at hafter
    have hread := @SpellsItems.read _ _ _ hitems fuel (by omega)
    rw [items?, hitem.read (hcomma.numberEnds (by decide)) (by omega)]
    simp only [Option.bind_eq_bind, Option.bind_some]
    rw [hcomma]
    simp only [List.singleton_append, hread]
    rfl

theorem SpellsFields.read {fields : List (Option String × Written)} {cs rest : List Char}
    (h : SpellsFields fields cs rest) {fuel : Nat}
    (hfuel : 2 * cs.length ≤ fuel + 2 * rest.length) :
    fields? fuel cs = some (Written.fieldDocuments fields, rest) := by
  have hlt := h.length_lt
  obtain ⟨fuel, rfl⟩ : ∃ m, fuel = m + 1 := ⟨fuel - 1, by omega⟩
  match h with
  | .last hquote hname hcolon hvalue hend =>
    have hnamed := hquote.length_le
    have hcoloned := length_lt_of_stringBody? hname
    have hvalued := hcolon.length_le
    have hafter := hend.length_le
    rw [List.length_singleton] at hnamed hvalued hafter
    have hread := @Spells.read _ _ _ hvalue (hend.numberEnds (by decide)) fuel (by omega)
    rw [fields?, hquote]
    simp only [List.singleton_append, hname, Option.bind_eq_bind, Option.bind_some]
    rw [hcolon]
    simp only [List.singleton_append, hread, Option.bind_some]
    rw [hend]
    rfl
  | .more hquote hname hcolon hvalue hcomma hfields =>
    have hnamed := hquote.length_le
    have hcoloned := length_lt_of_stringBody? hname
    have hvalued := hcolon.length_le
    have hbefore := hvalue.length_lt
    have hafter := hcomma.length_le
    have hmore := hfields.length_lt
    rw [List.length_singleton] at hnamed hvalued hafter
    have hread := @Spells.read _ _ _ hvalue (hcomma.numberEnds (by decide)) fuel (by omega)
    have hnext := @SpellsFields.read _ _ _ hfields fuel (by omega)
    rw [fields?, hquote]
    simp only [List.singleton_append, hname, Option.bind_eq_bind, Option.bind_some]
    rw [hcolon]
    simp only [List.singleton_append, hread, Option.bind_some]
    rw [hcomma]
    simp only [List.singleton_append, hnext]
    rfl

end

/-- A text is read as the document of whatever it is written as. -/
theorem ofText?_of_isText {s : String} {written : Written} (h : written.IsText s) :
    ofText? s = some written.document := by
  obtain ⟨rest, hspells, hrest⟩ := h
  have hread := @Spells.read _ _ _ hspells (numberEnds_of_isSpaces hrest)
    (2 * s.toList.length + 1) (by omega)
  rw [ofText?, leading?, hread]
  simp only [Option.bind_eq_bind, Option.bind_some, hrest, if_true]

/-- A document that holds nothing but a number is read as the number. -/
theorem WrittenNumber.ofText?_chars (n : WrittenNumber) :
    Json.ofText? (String.ofList n.chars) = some (.number n.text) := by
  have hspells : Spells (.number n) (String.ofList n.chars).toList [] := by
    refine .number n ?_
    obtain ⟨c, cs, hchars, hc⟩ := n.exists_head_chars
    rw [Starts, String.toList_ofList, hchars, List.append_nil,
      skipSpace_cons (isSpace_of_number hc)]
  have hread := ofText?_of_isText ⟨[], hspells, rfl⟩
  rw [Json.ofText?, hread]
  rfl

end SeriesSql.Document
