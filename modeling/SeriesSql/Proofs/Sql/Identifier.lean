import Mathlib
import SeriesSql.Proofs.Sql.Legible
import SeriesSql.Sql.Render

/-!
# Names in a statement are read back

A reader of names takes the longest run of letters, digits and underscores that starts with no
digit, or what stands between two double quotes, where a quote written twice is one of the name. It
gets every name back that is written in front of a text that goes on with neither. So what is
written shows the name, and where a name ends, and with that also the parts of a qualified column
and of a list of names.
-/

namespace SeriesSql

namespace Lexeme

/-- A word is the longest run of name characters, if that starts with no digit. -/
theorem read?_eq_word_iff {cs letters rest : List Char} :
    read? cs = some (.word letters, rest) ↔
      Token.isBareName letters ∧ cs = letters ++ rest ∧
        ∀ c ∈ rest.head?, Token.isNamePart c = false := by
  constructor
  · intro h
    cases cs with
    | nil => cases h
    | cons c cs =>
      by_cases hstart : Token.isNameStart c
      · rcases hspan : (c :: cs).span Token.isNamePart with ⟨body, after⟩
        obtain ⟨hcs, hbody, hafter⟩ := eq_append_of_span hspan
        have hbare : Token.isBareName body := by
          cases body with
          | nil =>
            have hpart := hafter c (by rw [← List.nil_append after, ← hcs, List.head?_cons]; rfl)
            rw [Reader.isNamePart_of_isNameStart hstart] at hpart
            cases hpart
          | cons d tail =>
            obtain ⟨rfl, -⟩ := List.cons.inj hcs
            rw [Token.isBareName, hstart, List.all_eq_true.2 (List.forall_mem_cons.1 hbody).2]
            rfl
        obtain ⟨d, tail, rfl, hd, hpart⟩ := Reader.isBareName_cons hbare
        rw [hcs, read?_word hd hpart hafter] at h
        obtain ⟨hletters, rfl⟩ := Prod.mk.inj (Option.some.inj h)
        obtain rfl := Lexeme.word.inj hletters
        exact ⟨hbare, hcs, hafter⟩
      · rw [read?, if_neg hstart] at h
        split_ifs at h
        all_goals
          obtain ⟨piece, -, heq⟩ := Option.map_eq_some_iff.1 h
          cases heq
  · rintro ⟨hletters, rfl, hrest⟩
    obtain ⟨c, tail, rfl, hstart, hpart⟩ := Reader.isBareName_cons hletters
    exact read?_word hstart hpart hrest

end Lexeme

namespace Reader

/-- A text starts with a name, bare or between two quotes, behind which the rest of it comes. -/
inductive StartsWithName : List Char → String → List Char → Prop
  | run {c : Char} {cs rest : List Char} (start : c.isAlpha ∨ c = '_')
      (part : ∀ d ∈ cs, d.isAlphanum ∨ d = '_')
      (longest : ∀ d ∈ rest.head?, ¬ (d.isAlphanum ∨ d = '_')) :
      StartsWithName (c :: cs ++ rest) (String.ofList (c :: cs)) rest
  | quotes {body rest : List Char} (closed : '"' ∉ rest.head?) :
      StartsWithName ('"' :: Token.doubleQuotes '"' body ++ '"' :: rest) (String.ofList body) rest

theorem isNamePart_iff {c : Char} : Token.isNamePart c ↔ c.isAlphanum ∨ c = '_' := by
  simp [Token.isNamePart]

theorem isNamePart_eq_false_iff {c : Char} :
    Token.isNamePart c = false ↔ ¬ (c.isAlphanum ∨ c = '_') := by
  rw [← isNamePart_iff, Bool.not_eq_true]

theorem isBareName_cons_iff {c : Char} {cs : List Char} :
    Token.isBareName (c :: cs) ↔
      (c.isAlpha ∨ c = '_') ∧ ∀ d ∈ cs, d.isAlphanum ∨ d = '_' := by
  simp [Token.isBareName, Token.isNameStart, Token.isNamePart]

/-- The reader of names takes the name that the text starts with. -/
theorem identifier_eq_some_iff {cs rest : List Char} {s : String} :
    identifier cs = some (s, rest) ↔ StartsWithName cs s rest := by
  constructor
  · intro h
    unfold identifier at h
    split at h
    · obtain ⟨⟨body, after⟩, hread, heq⟩ := Option.map_eq_some_iff.1 h
      obtain ⟨rfl, rfl⟩ := Prod.mk.inj heq
      obtain ⟨rfl, hclosed⟩ := Token.unquote?_eq_some_iff.1 hread
      exact .quotes hclosed
    · split at h
      · rename_i letters after hread
        obtain ⟨rfl, rfl⟩ := Prod.mk.inj (Option.some.inj h)
        obtain ⟨hbare, rfl, hlongest⟩ := Lexeme.read?_eq_word_iff.1 hread
        obtain ⟨c, tail, rfl, -⟩ := isBareName_cons hbare
        obtain ⟨hstart, hpart⟩ := isBareName_cons_iff.1 hbare
        exact .run hstart hpart fun d hd => isNamePart_eq_false_iff.1 (hlongest d hd)
      · cases h
  · rintro (⟨hstart, hpart, hlongest⟩ | hclosed)
    · rename_i c tail
      have hquote : c ≠ '"' := by
        rintro rfl
        exact absurd hstart (by decide)
      have hread := Lexeme.read?_eq_word_iff.2 ⟨isBareName_cons_iff.2 ⟨hstart, hpart⟩, rfl,
        fun d hd => isNamePart_eq_false_iff.2 (hlongest d hd)⟩
      rw [identifier]
      · rw [hread]
      · intro more hmore
        exact hquote (List.cons.inj hmore).1
    · rename_i body
      rw [List.cons_append, identifier, Token.unquote?_doubleQuotes '"' body hclosed]
      rfl

theorem nameEnds_iff {rest : List Char} :
    NameEnds rest ↔ ∀ c ∈ rest.head?, c ≠ '"' ∧ ¬ (c.isAlphanum ∨ c = '_') := by
  simp only [NameEnds, isNamePart_eq_false_iff, and_comm]

/-- What cannot follow a name: another quote behind one in quotes, and a further part of a bare
one. -/
theorem StartsWithName.ends {cs rest : List Char} {s : String} (h : StartsWithName cs s rest) :
    ('"' ∈ cs.head? → '"' ∉ rest.head?) ∧
      ('"' ∉ cs.head? → ∀ c ∈ rest.head?, ¬ (c.isAlphanum ∨ c = '_')) := by
  cases h with
  | run start part longest =>
    refine ⟨fun hquote => ?_, fun _ => longest⟩
    obtain rfl := Option.some.inj hquote
    exact absurd start (by decide)
  | quotes closed => exact ⟨fun _ => closed, fun hquote => absurd rfl hquote⟩

/-- Each text that goes on with a name spoils one: that of a letter, or that of nothing, which is
two quotes. -/
theorem nameEnds_of_identifier {rest : List Char}
    (h : ∀ s, identifier ((Token.name s).toList ++ rest) = some (s, rest)) : NameEnds rest := by
  have hbare := (identifier_eq_some_iff.1 (h "a")).ends.2 (by rintro ⟨⟩)
  have hquotes := (identifier_eq_some_iff.1 (h "")).ends.1 rfl
  rw [nameEnds_iff]
  intro c hc
  refine ⟨?_, hbare c hc⟩
  rintro rfl
  exact hquotes hc

end Reader

namespace Token

open Reader (NameEnds)

/-- A column shows its qualifier and its name where no further name could be behind a dot. -/
theorem determines_column :
    Determines (fun p : Option String × String => column p.1 p.2)
      fun rest => NameEnds rest ∧ '.' ∉ rest.head? := by
  have hdot : ∀ more, NameEnds ('.' :: more) := fun more =>
    Reader.nameEnds_cons more rfl (by decide)
  have hqualified : ∀ (q n : String) (rest : List Char),
      (column (some q) n).toList ++ rest = (name q).toList ++ '.' :: ((name n).toList ++ rest) := by
    intro q n rest
    simp [column]
  rintro ⟨q, n⟩ ⟨q', n'⟩ rest rest' ⟨hrest, hnext⟩ ⟨hrest', hnext'⟩ heq
  cases q with
  | none =>
    cases q' with
    | none =>
      obtain ⟨rfl, rfl⟩ := determines_name hrest hrest' heq
      exact ⟨rfl, rfl⟩
    | some q' =>
      simp only [hqualified] at heq
      obtain ⟨-, rfl⟩ := determines_name hrest (hdot _) heq
      exact absurd rfl hnext
  | some q =>
    simp only [hqualified] at heq
    cases q' with
    | none =>
      obtain ⟨-, rfl⟩ := determines_name (hdot _) hrest' heq
      exact absurd rfl hnext'
    | some q' =>
      simp only [hqualified] at heq
      obtain ⟨rfl, htail⟩ := determines_name (hdot _) (hdot _) heq
      obtain ⟨rfl, rfl⟩ := determines_name hrest hrest' (List.cons.inj htail).2
      exact ⟨rfl, rfl⟩

/-- A dot in a name is not the one in front of the name of a column. -/
example : column none "a.b" = "\"a.b\"" ∧ column (some "a") "b" = "a.b" := by decide

/-- A list of names shows its names where no further comma follows. -/
theorem determines_names :
    Determines names fun rest => NameEnds rest ∧ ¬ ", ".toList <+: rest := by
  refine (determines_name.mono ?_).list ?_ ?_
  · rintro rest (⟨hrest, -⟩ | ⟨more, rfl⟩)
    · exact hrest
    · exact Reader.nameEnds_cons _ rfl (by decide)
  · rintro s rest ⟨hrest, -⟩ ⟨more, rfl⟩
    obtain ⟨c, tail, hcs, hc⟩ := Reader.exists_head_name s
    rw [hcs] at hrest
    obtain ⟨hpart, hquote⟩ := hrest c rfl
    rcases hc with rfl | hstart
    · exact hquote rfl
    · rw [Reader.isNamePart_of_isNameStart hstart] at hpart
      cases hpart
  · rintro rest ⟨-, hcomma⟩
    exact hcomma

/-- A name is read back wherever no name could go on behind it, and what is written for a name, a
column and a list of names determines it. -/
theorem name_read_back :
    (∀ cs s rest, Reader.identifier cs = some (s, rest) ↔ Reader.StartsWithName cs s rest) ∧
    (∀ rest, (∀ s, Reader.identifier ((name s).toList ++ rest) = some (s, rest)) ↔
      ∀ c ∈ rest.head?, c ≠ '"' ∧ ¬ (c.isAlphanum ∨ c = '_')) ∧
    Function.Injective name ∧
    Determines (fun p : Option String × String => column p.1 p.2)
      (fun rest => NameEnds rest ∧ '.' ∉ rest.head?) ∧
    Determines names fun rest => NameEnds rest ∧ ¬ ", ".toList <+: rest := by
  refine ⟨fun _ _ _ => Reader.identifier_eq_some_iff, fun rest => ?_, name_injective,
    determines_column, determines_names⟩
  rw [← Reader.nameEnds_iff]
  exact ⟨Reader.nameEnds_of_identifier, fun hrest s => Reader.identifier_append s hrest⟩

end Token
end SeriesSql
