import Mathlib
import SeriesSql.Proofs.Sql.Clause

/-!
# Reading expressions back

The tests after an expression are not in parentheses, so where an expression ends depends on what
comes next. The text of an expression is therefore characterized with something after it: to read
both is to read on, with the expression as the subject, at what comes after its text.
-/

namespace SeriesSql

open Writer

namespace Reader

/-- Reading a text and something delimited after it comes down to reading the tests there, with an
expression as their subject. -/
def ReadsFrom (cs : List Char) (e : ExprShape) : Prop :=
  ∀ rest result, Delimited rest → Settles (fun fuel => suffixes fuel e rest) result →
    Settles (fun fuel => expr fuel (cs ++ rest)) result

/-- The words that open something else than an expression where an expression could stand. -/
def leadingWords : List String :=
  ["SELECT", "NOT", "DISTINCT"]

/-- Neither empty nor closed at once nor starting with a star or a leading word. -/
structure Opens (cs : List Char) : Prop where
  head : ∃ c tail, cs = c :: tail ∧ c ≠ ')' ∧ c ≠ '*'
  word : ∀ rest, Delimited rest → ∀ letters rest',
    Lexeme.read? (cs ++ rest) = some (.word letters, rest') → String.ofList letters ∉ leadingWords

/-- The text of an expression. Without the minus sign that it starts with, it is the text of the
expression with that sign missing in its first number. -/
structure Reads (cs : List Char) (e : ExprShape) : Prop where
  opens : Opens cs
  readsFrom : ReadsFrom cs e
  negative : ∀ tail, cs = '-' :: tail → ∃ positive : ExprShape,
    positive.negateHead = e ∧ ReadsFrom tail positive

theorem Opens.append {cs : List Char} (h : Opens cs) {more : List Char}
    (hmore : ∀ rest, Delimited rest → Delimited (more ++ rest)) : Opens (cs ++ more) := by
  obtain ⟨⟨c, tail, rfl, hc⟩, hword⟩ := h
  refine ⟨⟨c, tail ++ more, rfl, hc⟩, fun rest hrest letters rest' hread => ?_⟩
  rw [List.append_assoc] at hread
  exact hword _ (hmore rest hrest) letters rest' hread

theorem Opens.keyword_eq_none {cs : List Char} (h : Opens cs) {word : String}
    (hword : word ∈ leadingWords) {rest : List Char} (hrest : Delimited rest) :
    keyword word (cs ++ rest) = none := by
  apply Reader.keyword_eq_none
  rintro letters rest' hread rfl
  have hfree := h.word rest hrest _ rest' hread
  rw [String.ofList_toList] at hfree
  exact hfree hword

/-! ### Tests after an expression -/

theorem settles_suffixes (e : ExprShape) {rest : List Char} (hrest : Starts closers rest) :
    Settles (fun fuel => suffixes fuel e rest) (e, rest) := by
  have hnull : expect " IS NULL" rest = none := expect_of_starts (by decide) hrest
  have hnotNull : expect " IS NOT NULL" rest = none := expect_of_starts (by decide) hrest
  have hinterval : expect " IN '" rest = none := expect_of_starts (by decide) hrest
  have hlist : expect " IN (" rest = none := expect_of_starts (by decide) hrest
  apply Settles.of_succ
  simp only [suffixes, hnull, hnotNull, hinterval, hlist]
  exact .of_eq fun _ => rfl

/-- Before anything that no test starts with, the text of an expression is read to its end. -/
theorem Reads.settles {cs : List Char} {e : ExprShape} (h : Reads cs e) {rest : List Char}
    (hrest : Starts closers rest) : Settles (fun fuel => expr fuel (cs ++ rest)) (e, rest) :=
  h.readsFrom rest _ (hrest.delimited (by decide)) (settles_suffixes e hrest)

/-- A test after the text of an expression gives the text of a test. -/
theorem Reads.suffix {cs : List Char} {e : ExprShape} (h : Reads cs e) (text : String)
    (more : List Char) (wrap : ExprShape → ExprShape) (htext : startsDelimited text)
    (hwrap : ∀ subject, (wrap subject).negateHead = wrap subject.negateHead)
    (hsuffix : ∀ subject rest result, Delimited rest →
      Settles (fun fuel => suffixes fuel (wrap subject) rest) result →
        Settles (fun fuel => suffixes fuel subject (text.toList ++ more ++ rest)) result) :
    Reads (cs ++ (text.toList ++ more)) (wrap e) := by
  have hdelimited : ∀ rest, Delimited (text.toList ++ more ++ rest) := by
    intro rest
    rw [List.append_assoc]
    exact delimited_append text htext _
  have hreads : ∀ {cs subject}, ReadsFrom cs subject →
      ReadsFrom (cs ++ (text.toList ++ more)) (wrap subject) := by
    intro cs subject hsubject rest result hrest hresult
    rw [List.append_assoc]
    exact hsubject _ _ (hdelimited rest) (hsuffix subject rest result hrest hresult)
  refine ⟨h.opens.append fun rest _ => hdelimited rest, hreads h.readsFrom, fun tail htail => ?_⟩
  obtain ⟨c, cs', rfl, -⟩ := h.opens.head
  obtain ⟨rfl, rfl⟩ := List.cons.inj htail
  obtain ⟨positive, hpositive, hread⟩ := h.negative cs' rfl
  exact ⟨wrap positive, by rw [hwrap, hpositive], hreads hread⟩

/-! ### Expressions that end by themselves -/

theorem readsFrom_of_atom {cs : List Char} {e : ExprShape}
    (h : ∀ rest, Delimited rest → Settles (fun fuel => atom fuel (cs ++ rest)) (e, rest)) :
    ReadsFrom cs e := by
  intro rest result hrest hresult
  apply Settles.of_succ
  simp only [expr, Option.bind_eq_bind]
  exact (h rest hrest).bind hresult

theorem read?_open (cs : List Char) : Lexeme.read? ('(' :: cs) = none :=
  read?_eq_none (.inl rfl) cs

/-- What stands in parentheses is an expression, whatever comes after it. -/
theorem reads_parentheses {cs : List Char} {e : ExprShape}
    (h : ∀ rest, Settles (fun fuel => inParentheses fuel (cs ++ rest)) (e, rest)) :
    Reads ('(' :: cs) e := by
  refine ⟨⟨⟨'(', cs, rfl, by decide, by decide⟩, ?_⟩, ?_, ?_⟩
  · intro rest _ letters rest' hread
    rw [List.cons_append, read?_open] at hread
    cases hread
  · apply readsFrom_of_atom
    intro rest _
    apply Settles.of_succ
    simp only [List.cons_append, atom]
    exact h rest
  · intro tail htail
    exact absurd (List.cons.inj htail).1 (by decide)

theorem atom_literal {cs : List Char} (hopen : '(' ∉ cs.head?) (hname : name cs = none)
    (fuel : Nat) :
    atom (fuel + 1) cs = (literal cs).map fun (text, rest) => (.literal text, rest) := by
  rw [atom, hname]
  rintro tail rfl
  exact hopen rfl

theorem atom_name {cs : List Char} (hopen : '(' ∉ cs.head?) {n : String} {rest : List Char}
    (hname : name cs = some (n, rest)) (fuel : Nat) : atom (fuel + 1) cs = named fuel n rest := by
  rw [atom, hname]
  rintro tail rfl
  exact hopen rfl

theorem readsFrom_literal {text : String} (h : IsLexeme text) :
    ReadsFrom text.toList (.literal text) := by
  obtain ⟨c, tail, hcs, hopen, -⟩ := h.exists_head
  apply readsFrom_of_atom
  intro rest hrest
  have hhead : '(' ∉ (text.toList ++ rest).head? := by
    rw [hcs]
    exact fun hc => hopen (Option.some.inj hc)
  apply Settles.of_succ
  simp only [atom_literal hhead (h.name_eq_none hrest), h.literal_append hrest]
  exact .of_eq fun _ => rfl

theorem reads_literal {text : String} (h : IsLexeme text) :
    Reads text.toList (.literal text) := by
  obtain ⟨c, tail, hcs, -, hclose, hstar, -⟩ := h.exists_head
  refine ⟨⟨⟨c, tail, hcs, hclose, hstar⟩, ?_⟩, readsFrom_literal h, ?_⟩
  · intro rest hrest letters rest' hread hleading
    have hliteral := h.word_mem hrest hread
    have hdisjoint : ∀ word ∈ literalWords, word ∉ leadingWords := by decide
    exact hdisjoint _ hliteral hleading
  · intro digits hdigits
    have htext : "-" ++ String.ofList digits = text := by
      rw [← String.toList_inj, String.toList_append, hdigits]
      simp
    refine ⟨.literal (String.ofList digits), by rw [ExprShape.negateHead, htext], ?_⟩
    have hread := readsFrom_literal (h.tail hdigits)
    rwa [String.toList_ofList] at hread

/-! ### Names -/

theorem read?_name {n : String} {more letters rest : List Char} (hmore : NameEnds more)
    (h : Lexeme.read? ((Token.name n).toList ++ more) = some (.word letters, rest)) :
    String.ofList letters = n := by
  rw [Token.name, String.toList_ofList, Token.nameChars] at h
  split at h
  · rename_i hbare
    rw [read?_bareName hbare hmore] at h
    obtain rfl : n.toList = letters := Lexeme.word.inj (congrArg Prod.fst (Option.some.inj h))
    exact String.ofList_toList
  · rw [Token.enclose, List.cons_append, List.cons_append,
      read?_eq_none (.inr (.inr (.inr rfl)))] at h
    cases h

theorem opens_name {n : String} (hn : n ∉ bareWords) {more : List Char}
    (hmore : ∀ rest, Delimited rest → NameEnds (more ++ rest)) :
    Opens ((Token.name n).toList ++ more) := by
  obtain ⟨c, tail, hcs, hc⟩ := exists_head_name n
  refine ⟨⟨c, tail ++ more, by rw [hcs]; rfl, ?_, ?_⟩, ?_⟩
  · rintro rfl
    revert hc
    decide
  · rintro rfl
    revert hc
    decide
  · intro rest hrest letters rest' hread
    rw [List.append_assoc] at hread
    rw [read?_name (hmore rest hrest) hread]
    have hsubset : leadingWords ⊆ bareWords := by decide
    exact fun hleading => hn (hsubset hleading)

theorem reads_named {n : String} (hn : n ∉ bareWords) {more : List Char} {e : ExprShape}
    (hmore : ∀ rest, Delimited rest → NameEnds (more ++ rest))
    (h : ∀ rest, Delimited rest → Settles (fun fuel => named fuel n (more ++ rest)) (e, rest)) :
    Reads ((Token.name n).toList ++ more) e := by
  refine ⟨opens_name hn hmore, ?_, ?_⟩
  · apply readsFrom_of_atom
    intro rest hrest
    apply Settles.of_succ
    rw [List.append_assoc]
    simp only [atom_name (name_ne_head (by decide) rfl _) (name_append hn (hmore rest hrest))]
    exact h rest hrest
  · intro tail htail
    have hminus := name_ne_head (n := n) (c := '-') (by decide) rfl more
    rw [htail] at hminus
    exact absurd rfl hminus

theorem named_column {n : String} {rest : List Char} (hrest : Delimited rest) (fuel : Nat) :
    named (fuel + 1) n rest = some (.column none n, rest) := by
  cases rest with
  | nil => rfl
  | cons c tail => rcases hrest with rfl | rfl | rfl | rfl <;> rfl

theorem reads_column {qualifier : Option String} {n : String} (hqualifier : IsFree? qualifier)
    (hn : n ∉ bareWords) : Reads (Token.column qualifier n).toList (.column qualifier n) := by
  cases qualifier with
  | none =>
    have hread : Reads ((Token.name n).toList ++ []) (.column none n) := by
      apply reads_named hn
      · intro rest hrest
        exact nameEnds_of_delimited hrest
      · intro rest hrest
        apply Settles.of_succ
        simp only [List.nil_append, named_column hrest]
        exact .of_eq fun _ => rfl
    rwa [List.append_nil] at hread
  | some q =>
    have htext : (Token.column (some q) n).toList =
        (Token.name q).toList ++ '.' :: (Token.name n).toList := by
      simp [Token.column]
    rw [htext]
    apply reads_named (hqualifier q rfl)
    · intro rest _
      exact nameEnds_cons _ rfl (by decide)
    · intro rest hrest
      apply Settles.of_succ
      simp only [List.cons_append, named, name_append hn (nameEnds_of_delimited hrest),
        Option.map_some]
      exact .of_eq fun _ => rfl

theorem settles_noArgs (n : String) (rest : List Char) :
    Settles (fun fuel => named fuel n ('(' :: ')' :: rest)) (.call n [] none, rest) := by
  apply Settles.of_succ
  simp only [named]
  exact .of_eq fun _ => rfl

theorem settles_star (n : String) (rest : List Char) :
    Settles (fun fuel => named fuel n ('(' :: '*' :: ')' :: rest))
      (.call n [.raw "*"] none, rest) := by
  apply Settles.of_succ
  simp only [named]
  exact .of_eq fun _ => rfl

theorem settles_args (n : String) {inner : List Char} {args : List ExprShape} (hopens : Opens inner)
    (hargs : Items expr inner args) (rest : List Char) :
    Settles (fun fuel => named fuel n ('(' :: (inner ++ ')' :: rest)))
      (.call n args none, rest) := by
  have hread := hargs.settles (.close rest)
  have hclose : expect ")" (')' :: rest) = some rest := rfl
  obtain ⟨c, tail, rfl, hparenthesis, hstar⟩ := hopens.head
  have hunfold : ∀ fuel, named (fuel + 1) n ('(' :: (c :: tail ++ ')' :: rest)) =
      (commaSeparated (expr fuel) fuel (c :: tail ++ ')' :: rest)).bind fun result =>
        (expect ")" result.2).bind fun rest => some (.call n result.1 none, rest) := by
    intro fuel
    rw [named]
    · rfl
    · intro more heq
      exact hstar (List.cons.inj heq).1
    · intro more heq
      exact hparenthesis (List.cons.inj heq).1
  apply Settles.of_succ
  simp only [hunfold]
  apply hread.bind
  simp only [hclose, Option.bind_some]
  exact .of_eq fun _ => rfl

theorem reads_call {function : String} (hfunction : function ∉ bareWords) {inner : List Char}
    {args : List ExprShape}
    (h : ∀ rest, Settles (fun fuel => named fuel function ('(' :: (inner ++ ')' :: rest)))
      (.call function args none, rest)) :
    Reads ((Token.name function).toList ++ '(' :: (inner ++ [')'])) (.call function args none) := by
  apply reads_named hfunction
  · intro rest _
    exact nameEnds_cons _ rfl (by decide)
  · intro rest _
    rw [List.cons_append, List.append_assoc]
    exact h rest

/-! ### Parentheses -/

theorem keyword_minus (word : String) (cs : List Char) : keyword word ('-' :: cs) = none := by
  apply keyword_eq_none
  intro letters rest hread
  rw [Lexeme.read?_eq_numeral (.inr rfl), Option.map_eq_some_iff] at hread
  obtain ⟨_, -, heq⟩ := hread
  cases congrArg Prod.fst heq

theorem reads_subquery {cs : List Char} {nested : SelectShape}
    (h : ∀ rest, Settles (fun fuel => select fuel (cs ++ ')' :: rest)) (nested, ')' :: rest)) :
    Reads ('(' :: ("SELECT ".toList ++ cs ++ [')'])) (.subquery nested) := by
  apply reads_parentheses
  intro rest
  have htext : "SELECT ".toList ++ cs ++ [')'] ++ rest =
      "SELECT".toList ++ ' ' :: (cs ++ ')' :: rest) := by
    simp
  have hclose : expect ")" (')' :: rest) = some rest := rfl
  apply Settles.of_succ
  simp only [htext, inParentheses, keyword_append "SELECT" rfl, Option.bind_eq_bind]
  apply (h rest).bind
  simp only [hclose, Option.bind_some]
  exact .of_eq fun _ => rfl

theorem reads_not {cs : List Char} {e : ExprShape} (h : Reads cs e) :
    Reads ('(' :: ("NOT ".toList ++ cs ++ [')'])) (.unary .not e) := by
  apply reads_parentheses
  intro rest
  have htext : "NOT ".toList ++ cs ++ [')'] ++ rest =
      "NOT".toList ++ ' ' :: (cs ++ ')' :: rest) := by
    simp
  have hselect : keyword "SELECT" ("NOT".toList ++ ' ' :: (cs ++ ')' :: rest)) = none := by
    apply keyword_eq_none
    intro letters rest' hread
    rw [read?_bareName (by decide) (nameEnds_cons _ rfl (by decide))] at hread
    cases congrArg Prod.fst (Option.some.inj hread)
    decide
  have hclose : expect ")" (')' :: rest) = some rest := rfl
  apply Settles.of_succ
  simp only [htext, inParentheses, hselect, keyword_append "NOT" rfl,
    Option.bind_eq_bind]
  apply (h.settles (.close rest)).bind
  simp only [hclose, Option.bind_some]
  exact .of_eq fun _ => rfl

theorem reads_neg {cs : List Char} {e : ExprShape} (h : Reads cs e) :
    Reads ('(' :: '-' :: (cs ++ [')'])) (.unary .neg e) := by
  apply reads_parentheses
  intro rest
  have htext : '-' :: (cs ++ [')']) ++ rest = '-' :: (cs ++ ')' :: rest) := by
    simp
  have hclose : expect ")" (')' :: rest) = some rest := rfl
  apply Settles.of_succ
  simp only [htext, inParentheses, keyword_minus, Option.bind_eq_bind]
  apply (h.settles (.close rest)).bind
  simp only [hclose]
  exact .of_eq fun _ => rfl

/-- After a parenthesis a left operand is read, with or without a minus sign at its front. -/
theorem settles_left {cs : List Char} {left : ExprShape} (h : Reads cs left) {more : List Char}
    (hmore : Starts closers more) (hclose : expect ")" more = none)
    {result : ExprShape × List Char}
    (hresult : Settles (fun fuel => operation fuel left more) result) :
    Settles (fun fuel => inParentheses fuel (cs ++ more)) result := by
  have hdelimited : Delimited more := hmore.delimited (by decide)
  have hselect : keyword "SELECT" (cs ++ more) = none :=
    h.opens.keyword_eq_none (by decide) hdelimited
  have hnot : keyword "NOT" (cs ++ more) = none := h.opens.keyword_eq_none (by decide) hdelimited
  have hread := h.settles hmore
  obtain ⟨c, tail, rfl, -⟩ := h.opens.head
  apply Settles.of_succ
  by_cases hc : c = '-'
  · -- The reader takes the sign for an operator until it finds no closing parenthesis.
    subst hc
    obtain ⟨positive, rfl, hpositive⟩ := h.negative tail rfl
    have hread := hpositive more _ hdelimited (settles_suffixes positive hmore)
    simp only [List.cons_append] at hselect hnot ⊢
    simp only [inParentheses, hselect, hnot, Option.bind_eq_bind]
    apply hread.bind
    simp only [hclose]
    exact hresult
  · have hunfold : ∀ fuel, inParentheses (fuel + 1) (c :: tail ++ more) =
        (expr fuel (c :: tail ++ more)).bind fun result => operation fuel result.1 result.2 := by
      intro fuel
      rw [inParentheses, hselect, hnot]
      · rfl
      · intro operand heq
        exact hc (List.cons.inj heq).1
    simp only [hunfold]
    exact hread.bind hresult

theorem reads_binary (op : BinaryOp) {left right : List Char} {l r : ExprShape}
    (hleft : Reads left l) (hright : Reads right r) :
    Reads ('(' :: (left ++ ((" " ++ op.sign ++ " ").toList ++ (right ++ [')']))))
      (.binary op l r) := by
  apply reads_parentheses
  intro rest
  have htext : left ++ ((" " ++ op.sign ++ " ").toList ++ (right ++ [')'])) ++ rest =
      left ++ ((" " ++ op.sign ++ " ").toList ++ (right ++ ')' :: rest)) := by
    simp
  have hmore : Starts closers ((" " ++ op.sign ++ " ").toList ++ (right ++ ')' :: rest)) :=
    .append (sign_mem_closers op) _
  have hparenthesis :
      expect ")" ((" " ++ op.sign ++ " ").toList ++ (right ++ ')' :: rest)) = none := by
    cases op <;> rfl
  have hbetween :
      expect " BETWEEN " ((" " ++ op.sign ++ " ").toList ++ (right ++ ')' :: rest)) = none := by
    cases op <;> rfl
  have hclose : expect ")" (')' :: rest) = some rest := rfl
  rw [htext]
  apply settles_left hleft hmore hparenthesis
  apply Settles.of_succ
  simp only [operation, hbetween, operator_append, Option.bind_eq_bind, Option.bind_some]
  apply (hright.settles (.close rest)).bind
  simp only [hclose, Option.bind_some]
  exact .of_eq fun _ => rfl

theorem reads_between {subject low high : List Char} {s l h : ExprShape}
    (hsubject : Reads subject s) (hlow : Reads low l) (hhigh : Reads high h) :
    Reads ('(' :: (subject ++ (" BETWEEN ".toList ++ (low ++ (" AND ".toList ++
      (high ++ [')'])))))) (.between s l h) := by
  apply reads_parentheses
  intro rest
  have htext : subject ++ (" BETWEEN ".toList ++ (low ++ (" AND ".toList ++ (high ++ [')'])))) ++
      rest =
      subject ++ (" BETWEEN ".toList ++ (low ++ (" AND ".toList ++ (high ++ ')' :: rest)))) := by
    simp
  have hclose : expect ")" (')' :: rest) = some rest := rfl
  rw [htext]
  apply settles_left hsubject (.append (by decide) _) rfl
  apply Settles.of_succ
  simp only [operation, expect_append, Option.bind_eq_bind]
  apply (hlow.settles (.append (by decide) _)).bind
  simp only [expect_append, Option.bind_some]
  apply (hhigh.settles (.close rest)).bind
  simp only [hclose, Option.bind_some]
  exact .of_eq fun _ => rfl

/-! ### Tests -/

theorem reads_isNull {cs : List Char} {e : ExprShape} (h : Reads cs e) (negated : Bool) :
    Reads (cs ++ (if negated then " IS NOT NULL" else " IS NULL").toList) (.isNull e negated) := by
  have hread := h.suffix (if negated then " IS NOT NULL" else " IS NULL") []
    (fun subject => .isNull subject negated) (by cases negated <;> rfl) (fun _ => rfl)
  rw [List.append_nil] at hread
  apply hread
  intro subject rest result _ hresult
  apply Settles.of_succ
  cases negated with
  | false =>
    simp only [Bool.false_eq_true, if_false, suffixes, expect_append]
    exact hresult
  | true =>
    have hnull : expect " IS NULL" (" IS NOT NULL".toList ++ rest) = none := rfl
    simp only [if_true, suffixes, hnull, expect_append]
    exact hresult

theorem reads_inInterval {cs : List Char} {e : ExprShape} (h : Reads cs e) (interval : String) :
    Reads (cs ++ (" IN ".toList ++ (Token.quoted interval).toList)) (.inInterval e interval) := by
  apply h.suffix " IN " _ (fun subject => .inInterval subject interval) rfl (fun _ => rfl)
  intro subject rest result hrest hresult
  have htext : " IN ".toList ++ (Token.quoted interval).toList ++ rest =
      " IN '".toList ++ (Token.doubleQuotes '\'' interval.toList ++ '\'' :: rest) := by
    simp [Token.quoted, Token.enclose]
  have hquote : '\'' ∉ rest.head? :=
    hrest.ne_head (by decide) (by decide) (by decide) (by decide)
  have hnull : ∀ more : List Char, expect " IS NULL" (" IN '".toList ++ more) = none := fun _ => rfl
  have hnotNull : ∀ more : List Char, expect " IS NOT NULL" (" IN '".toList ++ more) = none :=
    fun _ => rfl
  apply Settles.of_succ
  simp only [htext, suffixes, hnull, hnotNull, expect_append, quoted_append interval hquote,
    Option.bind_eq_bind, Option.bind_some]
  exact hresult

theorem reads_inList {cs : List Char} {e : ExprShape} (h : Reads cs e) {inner : List Char}
    {values : List ExprShape} (hvalues : Items expr inner values) :
    Reads (cs ++ (" IN (".toList ++ (inner ++ [')']))) (.inList e values) := by
  apply h.suffix " IN (" _ (fun subject => .inList subject values) rfl (fun _ => rfl)
  intro subject rest result _ hresult
  have htext : " IN (".toList ++ (inner ++ [')']) ++ rest =
      " IN (".toList ++ (inner ++ ')' :: rest) := by
    simp
  have hnull : ∀ more : List Char, expect " IS NULL" (" IN (".toList ++ more) = none := fun _ => rfl
  have hnotNull : ∀ more : List Char, expect " IS NOT NULL" (" IN (".toList ++ more) = none :=
    fun _ => rfl
  have hinterval : ∀ more : List Char, expect " IN '" (" IN (".toList ++ more) = none :=
    fun _ => rfl
  have hclose : expect ")" (')' :: rest) = some rest := rfl
  apply Settles.of_succ
  simp only [htext, suffixes, hnull, hnotNull, hinterval, expect_append, Option.bind_eq_bind]
  apply (hvalues.settles (.close rest)).bind
  simp only [hclose, Option.bind_some]
  exact hresult

end Reader
end SeriesSql
