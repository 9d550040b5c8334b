import Mathlib
import SeriesSql.Proofs.Check
import SeriesSql.Proofs.Sql.Pieces

/-!
# What opens a comment

Two minus signs open a comment, and so does a slash in front of a star, but not inside quotes. A
text that leaves no quote open and ends in neither a minus sign nor a slash has no effect on what
comes after it. Every name, literal and period is such a text and opens no comment itself.
-/

namespace SeriesSql.Comment

/-- The quote that is open after a character, given the one that was open before it. -/
def quoteAfter : Option Char → Char → Option Char
  | none, c => if c = '\'' ∨ c = '"' then some c else none
  | some quote, c => if c = quote then none else some quote

def starts (c : Char) (next : Option Char) : Bool :=
  c == '-' && next == some '-' || c == '/' && next == some '*'

/-- Whether a comment is opened outside quotes. -/
def opens : Option Char → List Char → Bool
  | _, [] => false
  | quote, c :: cs => quote.isNone && starts c cs.head? || opens (quoteAfter quote c) cs

/-- A text that has no effect on the one after it. -/
structure Closed (cs : List Char) : Prop where
  quote : cs.foldl quoteAfter none = none
  last : ∀ c ∈ cs.getLast?, c ≠ '-' ∧ c ≠ '/'

/-- A text that opens no comment and has no effect on the one after it. -/
structure Quiet (cs : List Char) : Prop extends Closed cs where
  silent : opens none cs = false

def isQuiet (cs : List Char) : Bool :=
  (cs.foldl quoteAfter none).isNone && cs.getLast?.all (fun c => c != '-' && c != '/') &&
    !opens none cs

theorem quiet_text (text : String) (h : isQuiet text.toList) : Quiet text.toList := by
  simp only [isQuiet, Bool.and_eq_true, Option.isNone_iff_eq_none, Option.all_eq_true,
    bne_iff_ne, Bool.not_eq_true'] at h
  exact ⟨⟨h.1.1, h.1.2⟩, h.2⟩

theorem opens_append {first : List Char} (hlast : ∀ c ∈ first.getLast?, c ≠ '-' ∧ c ≠ '/')
    (quote : Option Char) (second : List Char) :
    opens quote (first ++ second) =
      (opens quote first || opens (first.foldl quoteAfter quote) second) := by
  induction first generalizing quote with
  | nil => rfl
  | cons c rest ih =>
    rw [List.cons_append, opens, opens, List.foldl_cons]
    cases rest with
    | nil =>
      obtain ⟨hminus, hslash⟩ := hlast c rfl
      simp [starts, hminus, hslash, opens]
    | cons d rest =>
      rw [ih (by simpa using hlast), Bool.or_assoc]
      rfl

theorem Closed.append {first second : List Char} (hfirst : Closed first) (hsecond : Closed second) :
    Closed (first ++ second) where
  quote := by rw [List.foldl_append, hfirst.quote, hsecond.quote]
  last := by
    intro c hc
    rw [List.getLast?_append, Option.mem_def, Option.or_eq_some_iff] at hc
    rcases hc with hc | ⟨-, hc⟩
    · exact hsecond.last c hc
    · exact hfirst.last c hc

theorem Closed.opens_append {first : List Char} (hfirst : Closed first) (second : List Char) :
    opens none (first ++ second) = (opens none first || opens none second) := by
  rw [Comment.opens_append hfirst.last, hfirst.quote]

theorem Quiet.append {first second : List Char} (hfirst : Quiet first) (hsecond : Quiet second) :
    Quiet (first ++ second) where
  toClosed := hfirst.toClosed.append hsecond.toClosed
  silent := by rw [hfirst.opens_append, hfirst.silent, hsecond.silent, Bool.or_false]

/-! ### Runs of characters -/

/-- A character that neither opens or closes a quote nor starts a comment. -/
def isCalm (c : Char) : Bool :=
  c != '\'' && c != '"' && c != '-' && c != '/'

theorem Quiet.nil : Quiet [] :=
  ⟨⟨rfl, nofun⟩, rfl⟩

theorem quiet_singleton {c : Char} (hc : isCalm c) : Quiet [c] := by
  simp only [isCalm, Bool.and_eq_true, bne_iff_ne] at hc
  obtain ⟨⟨⟨hquote, hdouble⟩, hminus⟩, hslash⟩ := hc
  refine ⟨⟨?_, ?_⟩, ?_⟩
  · simp [quoteAfter, hquote, hdouble]
  · simp [hminus, hslash]
  · simp [opens, starts]

theorem quiet_of_calm {cs : List Char} (h : ∀ c ∈ cs, isCalm c) : Quiet cs := by
  induction cs with
  | nil => exact .nil
  | cons c cs ih =>
    obtain ⟨hc, hcs⟩ := List.forall_mem_cons.1 h
    exact (quiet_singleton hc).append (ih hcs)

/-- No character of a class is one that matters when none of the four is in it. -/
theorem calm_of_class {p : Char → Bool} (hquote : p '\'' = false) (hdouble : p '"' = false)
    (hminus : p '-' = false) (hslash : p '/' = false) {c : Char} (hc : p c) : isCalm c := by
  simp only [isCalm, Bool.and_eq_true, bne_iff_ne]
  refine ⟨⟨⟨?_, ?_⟩, ?_⟩, ?_⟩ <;> rintro rfl
  · exact absurd hc (hquote ▸ Bool.false_ne_true)
  · exact absurd hc (hdouble ▸ Bool.false_ne_true)
  · exact absurd hc (hminus ▸ Bool.false_ne_true)
  · exact absurd hc (hslash ▸ Bool.false_ne_true)

/-! ### Names and texts in quotes -/

section Quotes

variable {quote : Char} (hquote : quote = '\'' ∨ quote = '"')
include hquote

theorem quoteAfter_open : quoteAfter none quote = some quote :=
  if_pos hquote

theorem starts_quote (next : Option Char) : starts quote next = false := by
  rcases hquote with rfl | rfl <;> rfl

theorem foldl_doubleQuotes (cs : List Char) :
    (Token.doubleQuotes quote cs).foldl quoteAfter (some quote) = some quote := by
  induction cs with
  | nil => rfl
  | cons c cs ih =>
    rw [Token.doubleQuotes, List.flatMap_cons, List.foldl_append, ← Token.doubleQuotes]
    by_cases hc : c = quote
    · subst hc
      simp [quoteAfter, hquote, ih]
    · simp [quoteAfter, hc, ih]

/-- Inside its quotes a text opens nothing. -/
theorem opens_doubleQuotes (cs rest : List Char) :
    opens (some quote) (Token.doubleQuotes quote cs ++ rest) = opens (some quote) rest := by
  induction cs with
  | nil => rfl
  | cons c cs ih =>
    rw [Token.doubleQuotes, List.flatMap_cons, List.append_assoc, ← Token.doubleQuotes]
    by_cases hc : c = quote
    · subst hc
      simp [opens, quoteAfter, starts_quote hquote, hquote, ih]
    · simp [opens, quoteAfter, hc, ih]

theorem quiet_enclose (cs : List Char) : Quiet (Token.enclose quote cs) where
  quote := by
    rw [Token.enclose, List.cons_append, List.foldl_cons, quoteAfter_open hquote,
      List.foldl_append, foldl_doubleQuotes hquote]
    simp [quoteAfter]
  last := by
    rw [Token.enclose, List.getLast?_concat]
    rintro c hc
    obtain rfl := Option.some.inj hc
    rcases hquote with rfl | rfl <;> decide
  silent := by
    rw [Token.enclose, List.cons_append, opens, starts_quote hquote, quoteAfter_open hquote,
      opens_doubleQuotes hquote]
    simp [opens]

end Quotes

theorem quiet_name (s : String) : Quiet (Token.name s).toList := by
  rw [Token.name, String.toList_ofList, Token.nameChars]
  split
  · rename_i hbare
    obtain ⟨c, tail, hcs, -, hpart⟩ := Reader.isBareName_cons hbare
    rw [hcs]
    exact quiet_of_calm fun d hd => calm_of_class rfl rfl rfl rfl (hpart d hd)
  · exact quiet_enclose (.inr rfl) s.toList

theorem quiet_intercalate {separator : List Char} (hseparator : Quiet separator)
    {parts : List (List Char)} (hparts : ∀ part ∈ parts, Quiet part) :
    Quiet (separator.intercalate parts) := by
  induction parts with
  | nil => exact .nil
  | cons part parts ih =>
    obtain ⟨hpart, hparts⟩ := List.forall_mem_cons.1 hparts
    cases parts with
    | nil => simpa using hpart
    | cons next parts =>
      rw [List.intercalate_cons_cons]
      exact (hpart.append hseparator).append (ih hparts)

theorem quiet_names (names : List String) : Quiet (Token.names names).toList := by
  rw [Token.names, String.toList_intercalate]
  refine quiet_intercalate (quiet_text ", " rfl) fun part hpart => ?_
  simp only [List.mem_map] at hpart
  obtain ⟨_, ⟨s, -, rfl⟩, rfl⟩ := hpart
  exact quiet_name s

/-! ### Lexemes -/

theorem calm_of_isDigit {c : Char} (hc : c.isDigit) : isCalm c :=
  calm_of_class rfl rfl rfl rfl hc

theorem quiet_unsigned {cs : List Char} (h : Numeral.Unsigned cs) : Quiet cs := by
  cases h with
  | whole hds => exact quiet_of_calm fun c hc => calm_of_isDigit (hds.2 c hc)
  | fraction hds hfs =>
    refine quiet_of_calm fun c hc => ?_
    rcases List.mem_append.1 hc with hc | hc
    · exact calm_of_isDigit (hds.2 c hc)
    · rcases List.mem_cons.1 hc with rfl | hc
      · rfl
      · exact calm_of_isDigit (hfs.2 c hc)

/-- A numeral has one minus sign at most, and a digit after it. -/
theorem quiet_signed {cs : List Char} (h : Numeral.Signed cs) : Quiet cs := by
  cases h with
  | plain hcs => exact quiet_unsigned hcs
  | @minus ds hds =>
    have hquiet := quiet_unsigned hds
    obtain ⟨d, tail, rfl, hd⟩ := hds.exists_digit
    have hminus : d ≠ '-' := by
      rintro rfl
      exact absurd hd (by decide)
    refine ⟨⟨hquiet.quote, ?_⟩, ?_⟩
    · rw [List.getLast?_cons_cons]
      exact hquiet.last
    · have hsilent := hquiet.silent
      simpa [opens, starts, hminus, quoteAfter] using hsilent

theorem quiet_number {cs : List Char} (h : Lexeme.IsNumber cs) : Quiet cs := by
  rcases h with rfl | h
  · exact quiet_of_calm (List.all_eq_true.1 (by decide))
  · exact quiet_signed h

/-- A text that is read as one lexeme opens no comment. -/
theorem quiet_of_read? {cs : List Char} {lexeme : Lexeme}
    (h : Lexeme.read? cs = some (lexeme, [])) : Quiet cs := by
  unfold Lexeme.read? at h
  split at h
  · cases h
  · rename_i c cs
    split at h
    · rename_i hc
      obtain ⟨⟨body, rest⟩, hread, heq⟩ := Option.map_eq_some_iff.1 h
      obtain ⟨-, rfl⟩ := Prod.mk.inj heq
      rw [hc, (Token.unquote?_eq_some_iff.1 hread).1]
      exact quiet_enclose (.inl rfl) body
    split at h
    · rename_i hc
      obtain ⟨⟨hash, rest⟩, hread, heq⟩ := Option.map_eq_some_iff.1 h
      obtain ⟨-, rfl⟩ := Prod.mk.inj heq
      obtain ⟨rfl, hhash⟩ := Lexeme.eq_of_geohash? hread
      rw [hc, List.append_nil]
      refine quiet_of_calm fun d hd => ?_
      rcases List.mem_cons.1 hd with rfl | hd
      · rfl
      rcases List.mem_cons.1 hd with rfl | hd
      · rfl
      · exact calm_of_class rfl rfl rfl rfl (hhash d hd)
    split at h
    · rename_i hc
      obtain ⟨⟨items, rest⟩, hread, heq⟩ := Option.map_eq_some_iff.1 h
      obtain ⟨-, rfl⟩ := Prod.mk.inj heq
      obtain ⟨rfl, hitems⟩ := Lexeme.eq_intercalate_of_items? hread
      rw [hc]
      exact ((quiet_singleton (c := '\x7b') rfl).append <|
        (quiet_intercalate (quiet_singleton (c := ',') rfl) fun item hitem =>
          quiet_number (hitems item hitem))).append (quiet_singleton (c := '\x7d') rfl)
    split at h
    · rcases hspan : (c :: cs).span Token.isNamePart with ⟨letters, rest⟩
      rw [hspan] at h
      obtain ⟨-, rfl⟩ := Prod.mk.inj (Option.some.inj h)
      obtain ⟨hcs, hletters, -⟩ := eq_append_of_span hspan
      rw [hcs, List.append_nil]
      exact quiet_of_calm fun d hd => calm_of_class rfl rfl rfl rfl (hletters d hd)
    · obtain ⟨⟨digits, rest⟩, hread, heq⟩ := Option.map_eq_some_iff.1 h
      obtain ⟨-, rfl⟩ := Prod.mk.inj heq
      obtain ⟨hcs, hsigned⟩ := Numeral.signed_of_read? hread
      rw [hcs, List.append_nil]
      exact quiet_signed hsigned

theorem quiet_literal {value : Value} {type : ColumnType} {text : String}
    (h : Literal.ofValue value type = .ok text) : Quiet text.toList := by
  obtain ⟨lexeme, hreads, -⟩ := Literal.isLiteral_ofValue h
  have hread := hreads [] trivial
  rw [List.append_nil] at hread
  exact quiet_of_read? hread

theorem quiet_integer (n : Int) : Quiet (toString n).toList :=
  quiet_signed (Numeral.signed_int n)

theorem quiet_period {text : String} (h : Period.isPeriod text.toList) : Quiet text.toList := by
  refine quiet_of_calm fun c hc => ?_
  rcases Period.mem_of_isPeriod h hc with hdigit | hunit
  · exact calm_of_class rfl rfl rfl rfl hdigit
  · exact List.all_eq_true.1 (show Period.units.all isCalm by rfl) c hunit

/-! ### Pieces -/

theorem quiet_column (qualifier : Option String) (name : String) :
    Quiet (Token.column qualifier name).toList := by
  cases qualifier with
  | none => exact quiet_name name
  | some qualifier =>
    rw [Token.column, String.toList_append, String.toList_append]
    exact ((quiet_name qualifier).append (quiet_text _ rfl)).append (quiet_name name)

theorem quiet_call (function : String) : Quiet (Token.name function ++ "(").toList := by
  rw [String.toList_append]
  exact (quiet_name function).append (quiet_text _ rfl)

theorem quiet_quoted (s : String) : Quiet (Token.quoted s).toList := by
  rw [Token.quoted, String.toList_ofList]
  exact quiet_enclose (.inl rfl) s.toList

theorem quiet_interval (interval : String) : Quiet (" IN " ++ Token.quoted interval).toList := by
  rw [String.toList_append]
  exact (quiet_text " IN " rfl).append (quiet_quoted interval)

theorem quiet_sign (op : BinaryOp) : Quiet (" " ++ op.sign ++ " ").toList := by
  cases op <;> exact quiet_text _ rfl

end SeriesSql.Comment
