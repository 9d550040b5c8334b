import Mathlib
import SeriesSql.Proofs.Sql.ExprReader

/-!
# Reading selects back

A clause of a select may be missing, and then the next one is there in its place. Which clauses
there are is clear from the words they start with, and those words also end whatever is before
them.
-/

namespace SeriesSql

open Writer Reader

def Expr.IsRead (e : Expr) : Prop :=
  ∀ text, Emits e.write text → Reads text.toList e.shape

def Source.IsRead (rows : Source) : Prop :=
  ∀ text, Emits rows.write text → ∀ rest, Starts sourceClosers rest →
    Settles (fun fuel => source fuel (text.toList ++ rest)) (rows.shape, rest)

/-- What is written for a select after its first word is read back as its shape. -/
def Select.IsRead (s : Select) : Prop :=
  ∀ text, Emits s.write text → ∃ body : List Char, text.toList = "SELECT ".toList ++ body ∧
    ∀ rest, Starts [] rest → Settles (fun fuel => select fuel (body ++ rest)) (s.shape, rest)

namespace Reader

/-! ### Lists of expressions -/

theorem opens_separated {α : Type} {write : α → Writer Unit} [∀ a, Steady (write a)] {as : List α}
    (hne : as ≠ []) (has : ∀ a ∈ as, ∀ text, Emits (write a) text → Opens text.toList)
    {text : String} (h : Emits (separated ", " write as) text) : Opens text.toList := by
  obtain ⟨a, as, rfl⟩ := List.exists_cons_of_ne_nil hne
  have ha := has a List.mem_cons_self
  cases as with
  | nil => exact ha text h
  | cons next as =>
    obtain ⟨first, others, rfl, hfirst, -⟩ := emits_separated_cons_iff.1 h
    rw [String.toList_append, String.toList_append]
    apply (ha first hfirst).append
    intro rest _
    rw [List.append_assoc]
    exact delimited_append ", " rfl _

theorem settles_expr {e : Expr} (he : e.IsRead) {text : String} (h : Emits e.write text)
    {rest : List Char} (hrest : Starts [", ", "\n"] rest) :
    Settles (fun fuel => expr fuel (text.toList ++ rest)) (e.shape, rest) :=
  (he text h).settles (hrest.mono (by decide))

theorem items_expr {es : List Expr} (hne : es ≠ []) (hes : ∀ e ∈ es, e.IsRead) {text : String}
    (h : Emits (Expr.writeList es) text) : Items expr text.toList (Expr.shapes es) := by
  rw [Expr.writeList_eq] at h
  rw [Expr.shapes_eq_map]
  exact items_separated hne (fun e he _ htext _ => settles_expr (hes e he) htext) h

theorem opens_expr {es : List Expr} (hne : es ≠ []) (hes : ∀ e ∈ es, e.IsRead) {text : String}
    (h : Emits (Expr.writeList es) text) : Opens text.toList := by
  rw [Expr.writeList_eq] at h
  exact opens_separated hne (fun e he text htext => (hes e he text htext).opens) h

/-! ### Result columns -/

theorem opens_projection {p : Projection} (hp : p.expr.IsRead) {text : String}
    (h : Emits p.write text) : Opens text.toList := by
  obtain ⟨e, label⟩ := p
  rw [Projection.write, emits_bind_iff] at h
  obtain ⟨first, second, rfl, hfirst, hsecond⟩ := h
  rw [String.toList_append]
  apply (hp first hfirst).opens.append
  intro rest hrest
  cases label with
  | none =>
    obtain rfl := emits_pure_iff.1 hsecond
    exact hrest
  | some label =>
    obtain rfl := emits_emit_iff.1 hsecond
    rw [String.toList_append, List.append_assoc]
    exact delimited_append " AS " rfl _

theorem settles_projection {p : Projection} (hp : p.expr.IsRead) (hlabel : IsFree? p.label)
    {text : String} (h : Emits p.write text) {rest : List Char}
    (hrest : Starts [", ", "\n"] rest) :
    Settles (fun fuel => projection (expr fuel) (text.toList ++ rest)) (p.shape, rest) := by
  obtain ⟨e, label⟩ := p
  rw [Projection.write, emits_bind_iff] at h
  obtain ⟨first, second, rfl, hfirst, hsecond⟩ := h
  rw [String.toList_append, List.append_assoc]
  simp only [projection, Option.bind_eq_bind]
  cases label with
  | none =>
    obtain rfl := emits_pure_iff.1 hsecond
    have hnone : expect " AS " rest = none := expect_of_starts (by decide) hrest
    apply (settles_expr hp hfirst hrest).bind
    simp only [optional_eq_none name hnone, Option.bind_some]
    exact .of_eq fun _ => rfl
  | some label =>
    obtain rfl := emits_emit_iff.1 hsecond
    have hname : name ((Token.name label).toList ++ rest) = some (label, rest) :=
      name_append (hlabel label rfl) (nameEnds_of_delimited (hrest.delimited rfl))
    rw [String.toList_append, List.append_assoc]
    apply ((hp first hfirst).settles (.append (by decide) _)).bind
    simp only [optional_append, hname, Option.map_some, Option.bind_some]
    exact .of_eq fun _ => rfl

/-! ### Sort keys -/

theorem settles_orderItem {item : OrderItem} (hitem : item.expr.IsRead) {text : String}
    (h : Emits item.write text) (rest : List Char) :
    Settles (fun fuel => orderItem (expr fuel) (text.toList ++ rest)) (item.shape, rest) := by
  obtain ⟨e, d⟩ := item
  simp only [OrderItem.write, emits_bind_iff, emits_emit_iff] at h
  obtain ⟨first, _, rfl, hfirst, rfl⟩ := h
  rw [String.toList_append, List.append_assoc]
  simp only [orderItem, Option.bind_eq_bind]
  apply ((hitem first hfirst).settles (.append (word_mem_closers d) _)).bind
  simp only [direction_append, Option.bind_some]
  exact .of_eq fun _ => rfl

/-! ### Sources -/

/-- A name never opens a parenthesis, so a source that starts with one is a table. -/
theorem source_name {n : String} (hn : n ∉ bareWords) {more : List Char} (hmore : NameEnds more)
    (fuel : Nat) : source (fuel + 1) ((Token.name n).toList ++ more) =
      (tableLabel more).bind fun result => some (.table n result.1, result.2) := by
  rw [source, name_append hn hmore]
  · rfl
  · intro tail htail
    have hhead := name_ne_head (n := n) (c := '(') (by decide) rfl more
    rw [htail] at hhead
    exact hhead rfl

end Reader

theorem Source.isRead_table {n : String} {label : Option String} (hn : n ∉ bareWords)
    (hlabel : IsFree? label) : (Source.table n label).IsRead := by
  intro text h rest hrest
  simp only [Source.write, emits_bind_iff, emits_emit_iff] at h
  obtain ⟨_, second, rfl, rfl, hsecond⟩ := h
  rw [String.toList_append, List.append_assoc, Source.shape]
  apply Settles.of_succ
  cases label with
  | none =>
    obtain rfl := emits_pure_iff.1 hsecond
    have hends : NameEnds rest := nameEnds_of_delimited (hrest.delimited rfl)
    simp only [String.toList_empty, List.nil_append, source_name hn hends, tableLabel_none hrest]
    exact .of_eq fun _ => rfl
  | some label =>
    obtain rfl := emits_emit_iff.1 hsecond
    have hspace : NameEnds ((" " ++ Token.name label).toList ++ rest) := by
      rw [String.toList_append, List.append_assoc]
      exact nameEnds_of_delimited (delimited_append " " rfl _)
    have hends : NameEnds rest := nameEnds_of_delimited (hrest.delimited rfl)
    simp only [source_name hn hspace, tableLabel_some (hlabel label rfl) hends]
    exact .of_eq fun _ => rfl

theorem Source.isRead_select {nested : Select} {label : String} (hnested : nested.IsRead)
    (hlabel : label ∉ bareWords) : (Source.select nested label).IsRead := by
  intro text h rest hrest
  simp only [Source.write, emits_bind_iff, emits_emit_iff] at h
  obtain ⟨_, _, rfl, rfl, inner, _, rfl, hinner, rfl⟩ := h
  obtain ⟨body, hbody, hread⟩ := hnested inner hinner
  have htext : ("(" ++ (inner ++ (") " ++ Token.name label))).toList ++ rest =
      '(' :: ("SELECT".toList ++
        ' ' :: (body ++ (") ".toList ++ ((Token.name label).toList ++ rest)))) := by
    simp only [String.toList_append, hbody, List.append_assoc]
    rfl
  have hclose : Starts [] (") ".toList ++ ((Token.name label).toList ++ rest)) := .close _
  have hname : name ((Token.name label).toList ++ rest) = some (label, rest) :=
    name_append hlabel (nameEnds_of_delimited (hrest.delimited rfl))
  rw [Source.shape, htext]
  apply Settles.of_succ
  simp only [source, keyword_append "SELECT" rfl, Option.bind_eq_bind, Option.bind_some]
  apply (hread _ hclose).bind
  simp only [expect_append, hname, Option.bind_some]
  exact .of_eq fun _ => rfl

/-! ### Clauses that may be missing -/

namespace Reader

/-- Read back before anything that may come after it, and not empty unless its first words are
missing. -/
structure IsClause {α : Type} (read : Nat → Reader α) (before : String) (after : List String)
    (text : String) (a : α) : Prop where
  settles : ∀ rest, Starts after rest →
    Settles (fun fuel => read fuel (text.toList ++ rest)) (a, rest)
  starts : ∀ rest, Starts after rest → Starts (before :: after) (text.toList ++ rest)

theorem isClause_empty {α : Type} {read : Nat → Reader α} {before : String} {after : List String}
    {a : α} (hclash : (")" :: after).all (clash before))
    (hread : ∀ fuel cs, expect before cs = none → read fuel cs = some (a, cs)) :
    IsClause read before after "" a where
  settles rest hrest := .of_eq fun fuel => hread fuel rest (expect_of_starts hclash hrest)
  starts _ hrest := hrest.mono (List.subset_cons_self _ _)

theorem isClause_some {α : Type} {read : Nat → Reader α} {before text : String}
    {after : List String} {body : List Char} {a : α} (htext : text.toList = before.toList ++ body)
    (hread : ∀ rest, Starts after rest →
      Settles (fun fuel => read fuel (body ++ rest)) (a, rest)) :
    IsClause (fun fuel => optional before (read fuel)) before after text (some a) where
  settles rest hrest := by
    simp only [htext, List.append_assoc, optional_append]
    exact (hread rest hrest).map
  starts rest hrest := by
    rw [htext, List.append_assoc]
    exact .append List.mem_cons_self _

/-- A clause that starts with a separator and words of its own. -/
theorem isClause_emitClause {α β : Type} {part : Option β} {write : β → Writer Unit}
    [∀ b, Steady (write b)] {read : Nat → Reader α} (shape : β → α)
    {separator before : String} (words : String) {after : List String}
    (hbefore : before = separator ++ words) (hclash : (")" :: after).all (clash before))
    (hpart : ∀ b ∈ part, ∀ text, Emits (write b) text → ∃ body : List Char,
      text.toList = words.toList ++ body ∧ ∀ rest, Starts after rest →
        Settles (fun fuel => read fuel (body ++ rest)) (shape b, rest))
    {text : String} (h : Emits (emitClause separator part write) text) :
    IsClause (fun fuel => optional before (read fuel)) before after text (part.map shape) := by
  cases part with
  | none =>
    obtain rfl := emits_pure_iff.1 h
    exact isClause_empty hclash fun fuel _ => optional_eq_none (read fuel)
  | some b =>
    simp only [emitClause, emits_bind_iff, emits_emit_iff] at h
    obtain ⟨_, inner, rfl, rfl, hinner⟩ := h
    obtain ⟨body, hbody, hread⟩ := hpart b rfl inner hinner
    apply isClause_some _ hread
    rw [hbefore, String.toList_append, String.toList_append, hbody, List.append_assoc]

/-- An expression that may be missing. -/
theorem isClause_expr {part : Option Expr} (hpart : ∀ e ∈ part, e.IsRead) {before : String}
    {after : List String} (hclash : (")" :: after).all (clash before))
    (hclosers : ∀ rest, Starts after rest → Starts closers rest) {text : String}
    (h : Emits (Expr.writeOptional before part) text) :
    IsClause (fun fuel => optional before (expr fuel)) before after text (Expr.shape? part) := by
  cases part with
  | none =>
    rw [Expr.writeOptional] at h
    obtain rfl := emits_pure_iff.1 h
    exact isClause_empty hclash fun fuel _ => optional_eq_none (expr fuel)
  | some e =>
    simp only [Expr.writeOptional, emits_bind_iff, emits_emit_iff] at h
    obtain ⟨_, inner, rfl, rfl, hinner⟩ := h
    apply isClause_some (String.toList_append)
    intro rest hrest
    exact (hpart e rfl inner hinner).settles (hclosers rest hrest)

/-- A list of pieces that is missing when it is empty. -/
theorem isClause_list {α β : Type} {bs : List β} {write : β → Writer Unit} [∀ b, Steady (write b)]
    {item : Nat → Reader α} {shape : β → α} {before : String} {after : List String}
    (hclash : (")" :: after).all (clash before))
    (hlines : ∀ rest, Starts after rest → Starts ["\n"] rest)
    (hitem : ∀ b ∈ bs, ∀ text, Emits (write b) text → ∀ rest, Starts [", ", "\n"] rest →
      Settles (fun fuel => item fuel (text.toList ++ rest)) (shape b, rest))
    {words list : String} (hwords : Emits (runIf (!bs.isEmpty) (emit before)) words)
    (hlist : Emits (separated ", " write bs) list) :
    IsClause (fun fuel => optionalList before (commaSeparated (item fuel) fuel)) before after
      (words ++ list) (bs.map shape) := by
  cases bs with
  | nil =>
    obtain rfl := emits_pure_iff.1 hwords
    obtain rfl := emits_pure_iff.1 hlist
    exact isClause_empty hclash fun fuel _ => optionalList_eq_nil _
  | cons b bs =>
    obtain rfl := emits_emit_iff.1 hwords
    have hitems := items_separated (List.cons_ne_nil b bs) hitem hlist
    refine ⟨fun rest hrest => ?_, fun rest _ => ?_⟩
    · simp only [String.toList_append, List.append_assoc, optionalList_append]
      exact hitems.settles (hlines rest hrest)
    · rw [String.toList_append, List.append_assoc]
      exact .append List.mem_cons_self _

end Reader

/-! ### Joins -/

def clauseOpeners : List String :=
  ["\nLATEST ON ", "\nWHERE ", "\nSAMPLE BY ", "\nGROUP BY ", "\nORDER BY ", "\nLIMIT "]

def Join.IsRead (join : Join) : Prop :=
  join.source.IsRead ∧ ∀ e ∈ join.predicate, e.IsRead

theorem Join.isClause_predicate {predicate : Option Expr} (hpredicate : ∀ e ∈ predicate, e.IsRead)
    {text : String} (h : Emits (Expr.writeOptional " ON " predicate) text) :
    IsClause (fun fuel => optional " ON " (expr fuel)) " ON " [" TOLERANCE ", "\n"] text
      (Expr.shape? predicate) :=
  isClause_expr hpredicate (by decide) (fun _ hrest => hrest.mono (by decide)) h

theorem check_of_bind {check : Except SqlError Unit} {next : Unit → Except SqlError Unit}
    (h : check >>= next = .ok ()) : next () = .ok () := by
  cases check with
  | ok _ => exact h
  | error e => cases h

theorem Join.isClause_tolerance {kind : JoinKind} {rows : Source} {predicate : Option Expr}
    {tolerance : Option String}
    (hcheck : Join.check ⟨kind, rows, predicate, tolerance⟩ = .ok ()) {text : String}
    (h : Emits (emitOptional " TOLERANCE " tolerance) text) :
    IsClause (fun _ => optional " TOLERANCE " chunk) " TOLERANCE " ["\n"] text tolerance := by
  cases tolerance with
  | none =>
    obtain rfl := emits_pure_iff.1 h
    exact isClause_empty (by decide) fun _ _ => optional_eq_none chunk
  | some period =>
    obtain rfl := emits_emit_iff.1 h
    have hperiod : Period.check .joinTolerance period = .ok () :=
      check_of_bind (check_of_bind (check_of_bind hcheck))
    apply isClause_some String.toList_append
    intro rest hrest
    exact .of_eq fun _ => chunk_append (isChunk_of_check hperiod) (hrest.delimited rfl)

theorem joinKind_eq_none {rest : List Char} (hrest : Starts clauseOpeners rest) :
    joinKind rest = none := by
  apply choice_eq_none
  intro kind _
  apply expect_of_starts _ hrest
  cases kind <;> decide

theorem Join.isClause_writeLines {all : List Join} (hall : ∀ join ∈ all, join.IsRead)
    {text : String} (h : Emits (Join.writeLines all) text) :
    IsClause joins "\n" clauseOpeners text (Join.shapes all) := by
  induction all generalizing text with
  | nil =>
    rw [Join.writeLines] at h
    obtain rfl := emits_pure_iff.1 h
    refine ⟨fun rest hrest => ?_, fun rest hrest => hrest.mono (List.subset_cons_self _ _)⟩
    apply Settles.of_succ
    simp only [String.toList_empty, List.nil_append, joins, joinKind_eq_none hrest]
    exact .of_eq fun _ => rfl
  | cons join all ih =>
    obtain ⟨⟨hsource, hpredicate⟩, hrest⟩ := List.forall_mem_cons.1 hall
    obtain ⟨kind, rows, predicate, tolerance⟩ := join
    simp only [Join.writeLines, Join.write, emits_bind_iff, emits_emit_iff, emits_require_iff] at h
    obtain ⟨_, _, rfl, rfl, _, others, rfl, ⟨_, _, rfl, ⟨hcheck, rfl⟩, _, _, rfl, rfl, first, _,
      rfl, hfirst, on, within, rfl, hon, hwithin⟩, hothers⟩ := h
    have hon := Join.isClause_predicate hpredicate hon
    have hwithin := Join.isClause_tolerance hcheck hwithin
    have hothers := ih hrest hothers
    refine ⟨fun rest hrest => ?_, fun rest _ => ?_⟩
    · have hlines := (hothers.starts rest hrest).lines (by decide)
      have hafterOn := hwithin.starts _ hlines
      have hafterSource : Starts sourceClosers _ := (hon.starts _ hafterOn).mono (by decide)
      have htext : ("\n" ++ ("" ++ (kind.word ++ " JOIN " ++ (first ++ (on ++ within))) ++
          others)).toList ++ rest = ("\n" ++ (kind.word ++ " JOIN ")).toList ++ (first.toList ++
            (on.toList ++ (within.toList ++ (others.toList ++ rest)))) := by
        simp
      rw [htext, Join.shapes]
      apply Settles.of_succ
      simp only [joins, joinKind_append, Option.bind_eq_bind]
      apply (hsource first hfirst _ hafterSource).bind
      apply (hon.settles _ hafterOn).bind
      apply (hwithin.settles _ hlines).bind
      apply (hothers.settles rest hrest).bind
      exact .of_eq fun _ => rfl
    · rw [String.toList_append, List.append_assoc]
      exact .append List.mem_cons_self _

/-! ### Selects -/

namespace Reader

theorem distinct_append (isDistinct : Bool) {cs : List Char}
    (hcs : keyword "DISTINCT" cs = none) :
    distinct ((if isDistinct then "DISTINCT " else "").toList ++ cs) = some (isDistinct, cs) := by
  cases isDistinct with
  | false =>
    simp only [Bool.false_eq_true, if_false, String.toList_empty, List.nil_append, distinct, hcs]
  | true =>
    have hword : keyword "DISTINCT" ("DISTINCT".toList ++ ' ' :: cs) = some cs :=
      keyword_append "DISTINCT" rfl cs
    change distinct ("DISTINCT".toList ++ ' ' :: cs) = _
    rw [distinct, hword]

theorem columns_append {cs : List Char} (hcs : Opens cs) (item : Reader ProjectionShape)
    (fuel : Nat) (rest : List Char) :
    columns item fuel (cs ++ rest) = commaSeparated item fuel (cs ++ rest) := by
  obtain ⟨c, tail, rfl, -, hstar⟩ := hcs.head
  rw [columns]
  intro more heq
  exact hstar (List.cons.inj heq).1

theorem settles_columns {ps : List Projection}
    (hps : ∀ p ∈ ps, p.expr.IsRead ∧ IsFree? p.label) {star list : String}
    (hstar : Emits (runIf ps.isEmpty (emit "*")) star)
    (hlist : Emits (Projection.writeList ps) list) {rest : List Char} (hrest : Starts ["\n"] rest) :
    Settles (fun fuel => columns (projection (expr fuel)) fuel
        (star.toList ++ (list.toList ++ rest))) (Projection.shapes ps, rest) ∧
      keyword "DISTINCT" (star.toList ++ (list.toList ++ rest)) = none := by
  rw [Projection.writeList_eq] at hlist
  rw [Projection.shapes_eq_map]
  by_cases hne : ps = []
  · subst hne
    obtain rfl := emits_emit_iff.1 hstar
    obtain rfl := emits_pure_iff.1 hlist
    refine ⟨.of_eq fun _ => rfl, ?_⟩
    apply keyword_eq_none
    intro letters rest' hread
    cases (read?_eq_none (.inr (.inr (.inl rfl))) _).symm.trans hread
  · have hempty : ps.isEmpty = false := List.isEmpty_eq_false_iff.2 hne
    rw [hempty] at hstar
    obtain rfl := emits_pure_iff.1 hstar
    have hopens : Opens list.toList :=
      opens_separated hne (fun p hp _ htext => opens_projection (hps p hp).1 htext) hlist
    have hitems : Items (fun fuel => projection (expr fuel)) list.toList
        (ps.map Projection.shape) :=
      items_separated hne
        (fun p hp _ htext _ => settles_projection (hps p hp).1 (hps p hp).2 htext) hlist
    rw [String.toList_empty, List.nil_append]
    refine ⟨?_, hopens.keyword_eq_none (by decide) (hrest.delimited rfl)⟩
    simp only [columns_append hopens]
    exact hitems.settles hrest

theorem isClause_latestOn {latest : Option LatestOn}
    (hfree : ∀ l ∈ latest, ∀ n ∈ l.timestamp :: l.keys, n ∉ bareWords) {text : String}
    (h : Emits (emitClause "\n" latest LatestOn.write) text) :
    IsClause (fun fuel => optional "\nLATEST ON " (latestOn fuel)) "\nLATEST ON "
      ["\nWHERE ", "\nSAMPLE BY ", "\nGROUP BY ", "\nORDER BY ", "\nLIMIT "] text latest := by
  rw [← Option.map_id_apply (x := latest)]
  apply isClause_emitClause id "LATEST ON " rfl (by decide) _ h
  intro l hl text htext
  obtain ⟨body, hbody, hread⟩ := settles_latestOn htext (hfree l hl)
  exact ⟨body, hbody, fun rest hrest => hread rest (hrest.lines (by decide))⟩

theorem isClause_where {condition : Option Expr} (hcondition : ∀ e ∈ condition, e.IsRead)
    {text : String} (h : Emits (Expr.writeOptional "\nWHERE " condition) text) :
    IsClause (fun fuel => optional "\nWHERE " (expr fuel)) "\nWHERE "
      ["\nSAMPLE BY ", "\nGROUP BY ", "\nORDER BY ", "\nLIMIT "] text (Expr.shape? condition) :=
  isClause_expr hcondition (by decide) (fun _ hrest => (hrest.lines (by decide)).mono (by decide)) h

theorem isClause_sampleBy {sample : Option SampleBy} {text : String}
    (h : Emits (emitClause "\n" sample SampleBy.write) text) :
    IsClause (fun fuel => optional "\nSAMPLE BY " (sampleBy fuel)) "\nSAMPLE BY "
      ["\nGROUP BY ", "\nORDER BY ", "\nLIMIT "] text (sample.map SampleBy.shape) := by
  apply isClause_emitClause SampleBy.shape "SAMPLE BY " rfl (by decide) _ h
  intro item _ text htext
  obtain ⟨body, hbody, hread⟩ := settles_sampleBy htext
  exact ⟨body, hbody, fun rest hrest => hread rest (hrest.lines (by decide))⟩

theorem isClause_groupBy {groups : List Expr} (hgroups : ∀ e ∈ groups, e.IsRead)
    {words list : String} (hwords : Emits (runIf (!groups.isEmpty) (emit "\nGROUP BY ")) words)
    (hlist : Emits (Expr.writeList groups) list) :
    IsClause (fun fuel => optionalList "\nGROUP BY " (commaSeparated (expr fuel) fuel))
      "\nGROUP BY " ["\nORDER BY ", "\nLIMIT "] (words ++ list) (Expr.shapes groups) := by
  rw [Expr.writeList_eq] at hlist
  rw [Expr.shapes_eq_map]
  exact isClause_list (by decide) (fun _ hrest => hrest.lines (by decide))
    (fun e he _ htext _ => settles_expr (hgroups e he) htext) hwords hlist

theorem isClause_orderBy {order : List OrderItem} (horder : ∀ item ∈ order, item.expr.IsRead)
    {words list : String} (hwords : Emits (runIf (!order.isEmpty) (emit "\nORDER BY ")) words)
    (hlist : Emits (OrderItem.writeList order) list) :
    IsClause (fun fuel => optionalList "\nORDER BY " (commaSeparated (orderItem (expr fuel)) fuel))
      "\nORDER BY " ["\nLIMIT "] (words ++ list) (OrderItem.shapes order) := by
  rw [OrderItem.writeList_eq] at hlist
  rw [OrderItem.shapes_eq_map]
  exact isClause_list (by decide) (fun _ hrest => hrest.lines (by decide))
    (fun item hitem _ htext rest _ => settles_orderItem (horder item hitem) htext rest) hwords hlist

theorem isClause_limit {count : Option Limit} {text : String}
    (h : Emits (emitClause "\n" count Limit.write) text) :
    IsClause (fun _ => optional "\nLIMIT " limit) "\nLIMIT " [] text count := by
  rw [← Option.map_id_apply (x := count)]
  apply isClause_emitClause id "LIMIT " rfl (by decide) _ h
  intro l _ text htext
  obtain ⟨body, hbody, hread⟩ := limit_append htext
  exact ⟨body, hbody, fun rest hrest => .of_eq fun _ => hread rest hrest⟩

/-- A select is read back when its parts are. -/
theorem isRead_of_parts {s : Select}
    (hprojections : ∀ p ∈ s.projections, p.expr.IsRead ∧ IsFree? p.label)
    (hsource : s.source.IsRead) (hjoins : ∀ join ∈ s.joins, join.IsRead)
    (hcondition : ∀ e ∈ s.condition, e.IsRead) (hgroups : ∀ e ∈ s.groupBy, e.IsRead)
    (horder : ∀ item ∈ s.orderBy, item.expr.IsRead)
    (hlatest : ∀ l ∈ s.latestOn, ∀ n ∈ l.timestamp :: l.keys, n ∉ bareWords) :
    s.IsRead := by
  obtain ⟨isDistinct, projections, rows, joined, condition, groups, order, count, sample,
    latest⟩ := s
  intro text h
  rw [Select.write_eq] at h
  simp only [emits_bind_iff, emits_emit_iff, emits_require_iff] at h
  obtain ⟨_, _, rfl, ⟨-, rfl⟩, _, _, rfl, rfl, star, _, rfl, hstar, list, _, rfl, hlist, _, _, rfl,
    rfl, first, _, rfl, hfirst, others, _, rfl, hothers, t₁, _, rfl, h₁, t₂, _, rfl, h₂, t₃, _, rfl,
    h₃, w₄, _, rfl, hw₄, t₄, _, rfl, h₄, w₅, _, rfl, hw₅, t₅, t₆, rfl, h₅, h₆⟩ := h
  have hjoins := Join.isClause_writeLines hjoins hothers
  have hlatest := isClause_latestOn hlatest h₁
  have hcondition := isClause_where hcondition h₂
  have hsample := isClause_sampleBy h₃
  have hgroups := isClause_groupBy hgroups hw₄ h₄
  have horder := isClause_orderBy horder hw₅ h₅
  have hlimit := isClause_limit h₆
  refine ⟨(if isDistinct then "DISTINCT " else "").toList ++ (star.toList ++ (list.toList ++
    ("\nFROM ".toList ++ (first.toList ++ (others.toList ++ (t₁.toList ++ (t₂.toList ++
      (t₃.toList ++ ((w₄ ++ t₄).toList ++ ((w₅ ++ t₅).toList ++ t₆.toList)))))))))), ?_,
    fun rest hrest => ?_⟩
  · cases isDistinct <;> simp
  · -- What comes after a clause is known from its end backwards: each clause either is empty or
    -- starts with its own words.
    have hafterOrder := hlimit.starts rest hrest
    have hafterGroups := horder.starts _ hafterOrder
    have hafterSample := hgroups.starts _ hafterGroups
    have hafterCondition := hsample.starts _ hafterSample
    have hafterLatest := hcondition.starts _ hafterCondition
    have hafterJoins := hlatest.starts _ hafterLatest
    have hafterSource := (hjoins.starts _ hafterJoins).lines (by decide)
    have hafterColumns : Starts ["\n"] ("\nFROM ".toList ++ (first.toList ++ (others.toList ++
        (t₁.toList ++ (t₂.toList ++ (t₃.toList ++ ((w₄ ++ t₄).toList ++ ((w₅ ++ t₅).toList ++
          (t₆.toList ++ rest))))))))) := .inr ⟨"\n", by decide, _, rfl⟩
    obtain ⟨hcolumns, hdistinct⟩ := settles_columns hprojections hstar hlist hafterColumns
    simp only [List.append_assoc]
    apply Settles.of_succ
    simp only [select, distinct_append isDistinct hdistinct, Option.bind_eq_bind, Option.bind_some]
    apply hcolumns.bind
    simp only [expect_append, Option.bind_some]
    apply (hsource first hfirst _ (hafterSource.mono (by decide))).bind
    apply (hjoins.settles _ hafterJoins).bind
    apply (hlatest.settles _ hafterLatest).bind
    apply (hcondition.settles _ hafterCondition).bind
    apply (hsample.settles _ hafterSample).bind
    apply (hgroups.settles _ hafterGroups).bind
    apply (horder.settles _ hafterOrder).bind
    apply (hlimit.settles rest hrest).bind
    exact .of_eq fun _ => rfl

end Reader
end SeriesSql
