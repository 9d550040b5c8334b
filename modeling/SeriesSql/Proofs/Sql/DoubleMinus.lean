import Mathlib
import SeriesSql.Proofs.Sql.Comment
import SeriesSql.Proofs.Sql.ExprReader
import SeriesSql.Proofs.Sql.WellFormed

/-!
# Where a statement opens a comment

No two pieces that a statement puts beside each other open a comment, but for a minus sign in front
of an operand whose text starts with one. That is a negative number, or a test of one, because a
test stands in no parentheses. Where a statement without such a negation is written, the engine
reads all of it.
-/

namespace SeriesSql

open Writer Comment

namespace Writer

/-- A text of a writer leaves nothing open and opens a comment exactly when a condition holds. -/
def CommentsIff (w : Writer Unit) (p : Prop) : Prop :=
  ∀ text, Emits w text → Closed text.toList ∧ (opens none text.toList ↔ p)

theorem CommentsIff.congr {w : Writer Unit} {p q : Prop} (hw : CommentsIff w p) (hpq : p ↔ q) :
    CommentsIff w q := by
  rwa [← propext hpq]

theorem commentsIff_of_quiet {w : Writer Unit}
    (h : ∀ text, Emits w text → Quiet text.toList) : CommentsIff w False := by
  intro text htext
  have hquiet := h text htext
  exact ⟨hquiet.toClosed, by simp [hquiet.silent]⟩

theorem commentsIff_emit {piece : String} (hpiece : Quiet piece.toList) :
    CommentsIff (emit piece) False := by
  apply commentsIff_of_quiet
  intro text htext
  rwa [emits_emit_iff.1 htext]

theorem commentsIff_fixed {piece : String} (hpiece : isQuiet piece.toList) :
    CommentsIff (emit piece) False :=
  commentsIff_emit (quiet_text piece hpiece)

theorem commentsIff_pure : CommentsIff (pure ()) False := by
  apply commentsIff_of_quiet
  intro text htext
  rw [emits_pure_iff.1 htext]
  exact .nil

theorem CommentsIff.bind {w : Writer Unit} {next : Unit → Writer Unit} {p q : Prop} [Steady w]
    [Steady (next ())] (hw : CommentsIff w p) (hnext : CommentsIff (next ()) q) :
    CommentsIff (w >>= next) (p ∨ q) := by
  intro text htext
  obtain ⟨first, second, rfl, hfirst, hsecond⟩ := emits_bind_iff.1 htext
  obtain ⟨hclosed, hopens⟩ := hw first hfirst
  obtain ⟨hclosed', hopens'⟩ := hnext second hsecond
  rw [String.toList_append]
  refine ⟨hclosed.append hclosed', ?_⟩
  rw [hclosed.opens_append, Bool.or_eq_true, hopens, hopens']

theorem commentsIff_literal {value : Value} {type : ColumnType} :
    CommentsIff (emitResult (Literal.ofValue value type)) False := by
  apply commentsIff_of_quiet
  intro text htext
  exact quiet_literal (emits_emitResult_iff.1 htext)

theorem commentsIff_violate (violation : Violation) : CommentsIff (violate violation) False :=
  fun _ htext => absurd htext (stops_throw _).not_emits

/-- What a check lets through is known in what is written after it. -/
theorem commentsIff_require {result : Except SqlError Unit} {next : Unit → Writer Unit} {p : Prop}
    [Steady (next ())] (h : result = .ok () → CommentsIff (next ()) p) :
    CommentsIff (require result >>= next) p := by
  intro text htext
  obtain ⟨first, second, rfl, hfirst, hsecond⟩ := emits_bind_iff.1 htext
  obtain ⟨hresult, rfl⟩ := emits_require_iff.1 hfirst
  rw [String.empty_append]
  exact h hresult second hsecond

theorem CommentsIff.runIf {w : Writer Unit} (hw : CommentsIff w False) (c : Bool) :
    CommentsIff (runIf c w) False := by
  cases c with
  | false => exact commentsIff_pure
  | true => exact hw

theorem commentsIff_emitOptional {before : String} (hbefore : Quiet before.toList)
    {text : Option String} (htext : ∀ s ∈ text, Quiet s.toList) :
    CommentsIff (emitOptional before text) False := by
  cases text with
  | none => exact commentsIff_pure
  | some s =>
    apply commentsIff_emit
    rw [String.toList_append]
    exact hbefore.append (htext s rfl)

theorem commentsIff_emitClause {α : Type} {before : String} (hbefore : isQuiet before.toList)
    {write : α → Writer Unit} [∀ a, Steady (write a)] {p : α → Prop} {part : Option α}
    (hpart : ∀ a ∈ part, CommentsIff (write a) (p a)) :
    CommentsIff (emitClause before part write) (∃ a ∈ part, p a) := by
  cases part with
  | none => exact commentsIff_pure.congr (by simp)
  | some a => exact ((commentsIff_fixed hbefore).bind (hpart a rfl)).congr (by simp)

theorem commentsIff_separated {α : Type} {separator : String}
    (hseparator : isQuiet separator.toList) {write : α → Writer Unit} [∀ a, Steady (write a)]
    {p : α → Prop} {items : List α} (hitems : ∀ a ∈ items, CommentsIff (write a) (p a)) :
    CommentsIff (separated separator write items) (∃ a ∈ items, p a) := by
  induction items with
  | nil => exact commentsIff_pure.congr (by simp)
  | cons item rest ih =>
    obtain ⟨hitem, hrest⟩ := List.forall_mem_cons.1 hitems
    cases rest with
    | nil => exact hitem.congr (by simp)
    | cons next rest =>
      exact (hitem.bind ((commentsIff_fixed hseparator).bind (ih hrest))).congr (by simp)

end Writer

/-! ### What a text starts with -/

/-- Whether a minus sign stands first in the text of an expression: that of a negative number, or
that of a test of such an expression. -/
def Expr.StartsMinus : Expr → Prop
  | .literal value type => ∃ text, Literal.ofValue value type = .ok text ∧ '-' ∈ text.toList.head?
  | .inInterval subject _ => subject.StartsMinus
  | .inList subject _ => subject.StartsMinus
  | .isNull subject _ => subject.StartsMinus
  | _ => False

namespace Writer

theorem Emits.first {piece : String} {next : Unit → Writer Unit} [Steady (next ())] {text : String}
    (h : Emits (emit piece >>= next) text) : ∃ rest, text.toList = piece.toList ++ rest := by
  obtain ⟨first, second, rfl, hfirst, -⟩ := emits_bind_iff.1 h
  exact ⟨second.toList, by rw [emits_emit_iff.1 hfirst, String.toList_append]⟩

theorem Emits.of_runIf {c : Bool} {violation : Violation} {next : Unit → Writer Unit}
    [Steady (next ())] {text : String} (h : Emits (runIf c (violate violation) >>= next) text) :
    Emits (next ()) text := by
  obtain ⟨first, second, rfl, hfirst, hsecond⟩ := emits_bind_iff.1 h
  cases c with
  | true => exact absurd hfirst (stops_throw _).not_emits
  | false =>
    rwa [emits_pure_iff.1 hfirst, String.empty_append]

/-- The first character of a text stays when something is added to the text. -/
theorem Emits.head {w : Writer Unit} {next : Unit → Writer Unit} [Steady w] [Steady (next ())]
    {p : Prop}
    (hw : ∀ text, Emits w text → text.toList ≠ [] ∧ ('-' ∈ text.toList.head? ↔ p))
    {text : String} (h : Emits (w >>= next) text) :
    text.toList ≠ [] ∧ ('-' ∈ text.toList.head? ↔ p) := by
  obtain ⟨first, second, rfl, hfirst, -⟩ := emits_bind_iff.1 h
  obtain ⟨hne, hhead⟩ := hw first hfirst
  rw [String.toList_append, List.head?_append_of_ne_nil _ hne]
  exact ⟨List.append_ne_nil_of_left_ne_nil hne _, hhead⟩

end Writer

theorem Token.head_name {n : String} {text more : List Char}
    (h : text = (Token.name n).toList ++ more) : text ≠ [] ∧ '-' ∉ text.head? := by
  subst h
  obtain ⟨c, tail, hcs, -⟩ := Reader.exists_head_name n
  exact ⟨by simp [hcs], Reader.name_ne_head (by decide) rfl more⟩

namespace Node

/-- No part of the tree is SQL that was given as it is, apart from the star of a count. -/
def HasNoRaw (root : Node) : Prop :=
  ∀ sql, root.Contains (.expr (.raw sql)) → sql = "*"

theorem Contains.eq_or_child {root node : Node} (h : root.Contains node) :
    node = root ∨ ∃ child ∈ root.children, child.Contains node := by
  induction h with
  | root => exact .inl rfl
  | @child node child _ hchild ih =>
    rcases ih with rfl | ⟨first, hfirst, hnode⟩
    · exact .inr ⟨child, hchild, .root⟩
    · exact .inr ⟨first, hfirst, hnode.child hchild⟩

theorem hasNoRaw_of_children {root : Node} (hroot : ∀ sql, root ≠ .expr (.raw sql))
    (h : ∀ child ∈ root.children, child.HasNoRaw) : root.HasNoRaw := by
  intro sql hsql
  rcases hsql.eq_or_child with heq | ⟨child, hchild, hsql⟩
  · exact absurd heq.symm (hroot sql)
  · exact h child hchild sql hsql

theorem HasNoRaw.child {root child : Node} (h : root.HasNoRaw) (hchild : child ∈ root.children) :
    child.HasNoRaw :=
  fun sql hsql => h sql (.of_child hchild hsql)

theorem head_write {e : Expr} (hraw : (expr e).HasNoRaw) {text : String} (h : Emits e.write text) :
    text.toList ≠ [] ∧ ('-' ∈ text.toList.head? ↔ e.StartsMinus) := by
  cases e with
  | literal value type =>
    rw [Expr.write, emits_emitResult_iff] at h
    obtain ⟨c, tail, htext, -⟩ := (Reader.isLexeme_ofValue h).exists_head
    refine ⟨by simp [htext], ?_⟩
    simp [Expr.StartsMinus, h]
  | inInterval subject interval =>
    rw [Expr.write] at h
    exact Emits.head (fun _ => head_write (hraw.child (List.mem_singleton_self _))) h
  | inList subject values =>
    rw [Expr.write_inList] at h
    exact Emits.head (fun _ => head_write (hraw.child List.mem_cons_self)) h.of_runIf
  | isNull subject negated =>
    rw [Expr.write] at h
    exact Emits.head (fun _ => head_write (hraw.child (List.mem_singleton_self _))) h
  | column qualifier name =>
    rw [Expr.write, emits_emit_iff] at h
    simp only [Expr.StartsMinus, iff_false]
    cases qualifier with
    | none => exact Token.head_name (by rw [h, Token.column, List.append_nil])
    | some qualifier =>
      rw [Token.column] at h
      apply Token.head_name (n := qualifier)
      rw [h, String.toList_append, String.toList_append, List.append_assoc]
  | call kind function args label =>
    rw [Expr.write] at h
    obtain ⟨rest, htext⟩ := h.first
    simp only [Expr.StartsMinus, iff_false]
    exact Token.head_name (by rw [htext, String.toList_append, List.append_assoc])
  | raw sql =>
    obtain rfl := hraw sql .root
    rw [Expr.write, emits_emit_iff] at h
    subst h
    simp [Expr.StartsMinus]
  | binary op left right =>
    rw [Expr.write] at h
    obtain ⟨rest, htext⟩ := h.first
    simp [htext, Expr.StartsMinus]
  | unary op operand =>
    rw [Expr.write] at h
    obtain ⟨rest, htext⟩ := h.first
    simp [htext, Expr.StartsMinus]
  | subquery select =>
    rw [Expr.write] at h
    obtain ⟨rest, htext⟩ := h.first
    simp [htext, Expr.StartsMinus]
  | between subject low high =>
    rw [Expr.write] at h
    obtain ⟨rest, htext⟩ := h.first
    simp [htext, Expr.StartsMinus]
termination_by sizeOf e

/-- Somewhere in the tree a minus sign is written in front of an operand that starts with one. -/
def DoublesMinus (root : Node) : Prop :=
  ∃ operand : Expr, root.Contains (.expr (.unary .neg operand)) ∧ operand.StartsMinus

theorem doublesMinus_iff {node : Node} :
    node.DoublesMinus ↔
      (∃ operand : Expr, node = .expr (.unary .neg operand) ∧ operand.StartsMinus) ∨
        ∃ child ∈ node.children, child.DoublesMinus := by
  constructor
  · rintro ⟨operand, hcontains, hstarts⟩
    rcases hcontains.eq_or_child with h | ⟨child, hchild, h⟩
    · exact .inl ⟨operand, h.symm, hstarts⟩
    · exact .inr ⟨child, hchild, operand, h, hstarts⟩
  · rintro (⟨operand, rfl, hstarts⟩ | ⟨child, hchild, operand, h, hstarts⟩)
    · exact ⟨operand, .root, hstarts⟩
    · exact ⟨operand, .of_child hchild h, hstarts⟩

abbrev Exact (node : Node) : Prop :=
  CommentsIff node.write node.DoublesMinus

instance steady_write (node : Node) : Steady node.write :=
  (composed node).steady

theorem commentsIff_writeList {es : List Expr} (h : ∀ e ∈ es, (expr e).Exact) :
    CommentsIff (Expr.writeList es) (∃ e ∈ es, (expr e).DoublesMinus) := by
  rw [Expr.writeList_eq]
  exact commentsIff_separated rfl h

theorem commentsIff_writeOptional {before : String} (hbefore : isQuiet before.toList)
    {part : Option Expr} (h : ∀ e ∈ part, (expr e).Exact) :
    CommentsIff (Expr.writeOptional before part) (∃ e ∈ part, (expr e).DoublesMinus) := by
  cases part with
  | none =>
    rw [Expr.writeOptional]
    exact commentsIff_pure.congr (by simp)
  | some e =>
    rw [Expr.writeOptional]
    exact ((commentsIff_fixed hbefore).bind (h e rfl)).congr (by simp)

theorem commentsIff_writeLines {joins : List Join} (h : ∀ j ∈ joins, (join j).Exact) :
    CommentsIff (Join.writeLines joins) (∃ j ∈ joins, (join j).DoublesMinus) := by
  induction joins with
  | nil =>
    rw [Join.writeLines]
    exact commentsIff_pure.congr (by simp)
  | cons j rest ih =>
    obtain ⟨hj, hrest⟩ := List.forall_mem_cons.1 h
    rw [Join.writeLines]
    exact ((commentsIff_fixed rfl).bind (CommentsIff.bind hj (ih hrest))).congr (by simp)

theorem commentsIff_labelled (label : Option String) :
    CommentsIff (Token.labelled label) False := by
  apply commentsIff_emitOptional (quiet_text _ rfl)
  intro s hs
  obtain ⟨name, -, rfl⟩ := Option.mem_map.1 hs
  exact quiet_name name

/-- A minus sign in front of an operand opens a comment when the operand starts with one. -/
theorem commentsIff_neg {operand : Expr} (hraw : (expr operand).HasNoRaw)
    (h : (expr operand).Exact) :
    CommentsIff (Expr.unary .neg operand).write
      (operand.StartsMinus ∨ (expr operand).DoublesMinus) := by
  intro text htext
  rw [Expr.write] at htext
  obtain ⟨_, more, rfl, hfirst, hmore⟩ := emits_bind_iff.1 htext
  obtain ⟨body, _, rfl, hbody, hlast⟩ := emits_bind_iff.1 hmore
  obtain rfl := emits_emit_iff.1 hfirst
  obtain rfl := emits_emit_iff.1 hlast
  obtain ⟨hne, hhead⟩ := head_write hraw hbody
  obtain ⟨hclosed, hopens⟩ := h body hbody
  have hclose : Quiet ")".toList := quiet_text _ rfl
  have hrest : Closed (body ++ ")").toList := by
    rw [String.toList_append]
    exact hclosed.append hclose.toClosed
  have hstarts : starts '-' (body ++ ")").toList.head? = true ↔ operand.StartsMinus := by
    rw [String.toList_append, List.head?_append_of_ne_nil _ hne, ← hhead]
    simp [starts]
  have hbefore : opens none (body ++ ")").toList = opens none body.toList := by
    rw [String.toList_append, hclosed.opens_append, hclose.silent, Bool.or_false]
  rw [String.toList_append]
  change Closed ('(' :: '-' :: (body ++ ")").toList) ∧
    (opens none ('(' :: '-' :: (body ++ ")").toList) ↔ _)
  refine ⟨⟨hrest.quote, ?_⟩, ?_⟩
  · intro c hc
    have hlast : c = ')' := by
      rw [String.toList_append, ← List.cons_append, ← List.cons_append,
        show ")".toList = [')'] from rfl, List.getLast?_concat] at hc
      exact (Option.some.inj hc).symm
    subst hlast
    decide
  · rw [← hstarts, ← hopens, ← hbefore]
    simp [opens, starts, quoteAfter]

theorem commentsIff_expr {e : Expr} (hraw : (expr e).HasNoRaw)
    (h : ∀ child ∈ (expr e).children, child.Exact) : (expr e).Exact := by
  refine CommentsIff.congr ?_ doublesMinus_iff.symm
  cases e with
  | column qualifier name =>
    rw [write, Expr.write]
    exact (commentsIff_emit (quiet_column qualifier name)).congr (by simp [children])
  | literal value type =>
    rw [write, Expr.write]
    exact commentsIff_literal.congr (by simp [children])
  | binary op left right =>
    obtain ⟨hleft, hright⟩ : (expr left).Exact ∧ (expr right).Exact := by
      simpa [children] using h
    rw [write, Expr.write]
    exact ((commentsIff_fixed rfl).bind <| CommentsIff.bind hleft <|
      (commentsIff_emit (quiet_sign op)).bind <| CommentsIff.bind hright
      (commentsIff_fixed rfl)).congr (by simp [children])
  | unary op operand =>
    have hoperand : (expr operand).Exact := h _ (List.mem_singleton_self _)
    cases op with
    | not =>
      rw [write, Expr.write]
      exact ((commentsIff_fixed rfl).bind <| CommentsIff.bind hoperand
        (commentsIff_fixed rfl)).congr (by simp [children])
    | neg =>
      have hrawOperand := hraw.child (List.mem_singleton_self (expr operand))
      exact (commentsIff_neg hrawOperand hoperand).congr (by simp [children])
  | call kind function args label =>
    have hargs : ∀ e ∈ args, (expr e).Exact := by simpa [children] using h
    rw [write, Expr.write]
    exact ((commentsIff_emit (quiet_call function)).bind <| (commentsIff_writeList hargs).bind <|
      (commentsIff_fixed rfl).bind (commentsIff_labelled label)).congr (by simp [children])
  | subquery s =>
    have hselect : (select s).Exact := h _ (List.mem_singleton_self _)
    rw [write, Expr.write]
    exact ((commentsIff_fixed rfl).bind <| CommentsIff.bind hselect
      (commentsIff_fixed rfl)).congr (by simp [children])
  | inInterval subject interval =>
    have hsubject : (expr subject).Exact := h _ (List.mem_singleton_self _)
    rw [write, Expr.write]
    exact (CommentsIff.bind hsubject (commentsIff_emit (quiet_interval interval))).congr
      (by simp [children])
  | inList subject values =>
    obtain ⟨hsubject, hvalues⟩ : (expr subject).Exact ∧ ∀ e ∈ values, (expr e).Exact := by
      simpa [children] using h
    rw [write, Expr.write_inList]
    exact ((commentsIff_violate _).runIf values.isEmpty |>.bind <| CommentsIff.bind hsubject <|
      (commentsIff_fixed rfl).bind <| (commentsIff_writeList hvalues).bind
      (commentsIff_fixed rfl)).congr (by simp [children])
  | between subject low high =>
    obtain ⟨hsubject, hlow, hhigh⟩ :
        (expr subject).Exact ∧ (expr low).Exact ∧ (expr high).Exact := by
      simpa [children] using h
    rw [write, Expr.write]
    exact ((commentsIff_fixed rfl).bind <| CommentsIff.bind hsubject <|
      (commentsIff_fixed rfl).bind <| CommentsIff.bind hlow <| (commentsIff_fixed rfl).bind <|
      CommentsIff.bind hhigh (commentsIff_fixed rfl)).congr (by simp [children])
  | isNull subject negated =>
    have hsubject : (expr subject).Exact := h _ (List.mem_singleton_self _)
    have htest : isQuiet (if negated then " IS NOT NULL" else " IS NULL").toList := by
      cases negated <;> rfl
    rw [write, Expr.write]
    exact (CommentsIff.bind hsubject (commentsIff_fixed htest)).congr (by simp [children])
  | raw sql =>
    obtain rfl := hraw sql .root
    rw [write, Expr.write]
    exact (commentsIff_fixed rfl).congr (by simp [children])

/-! ### Clauses -/

theorem commentsIff_join {j : Join} (h : ∀ child ∈ (join j).children, child.Exact) :
    (join j).Exact := by
  obtain ⟨kind, s, predicate, tolerance⟩ := j
  obtain ⟨hsource, hpredicate⟩ : (source s).Exact ∧ ∀ e ∈ predicate, (expr e).Exact := by
    simpa [children] using h
  refine CommentsIff.congr ?_ doublesMinus_iff.symm
  rw [write, Join.write]
  refine commentsIff_require fun hcheck => ?_
  have htolerance : ∀ text ∈ tolerance, Quiet text.toList := fun text htext =>
    quiet_period (((check_join_iff _).1 hcheck).2.2 text htext).2
  have hkind : isQuiet (kind.word ++ " JOIN ").toList := by
    cases kind <;> rfl
  exact ((commentsIff_fixed hkind).bind <| CommentsIff.bind hsource <|
    (commentsIff_writeOptional rfl hpredicate).bind
    (commentsIff_emitOptional (quiet_text _ rfl) htolerance)).congr (by simp [children])

theorem commentsIff_fill (f : Fill) : CommentsIff f.write False := by
  cases f with
  | value x =>
    rw [Fill.write]
    cases x with
    | finite negative rank =>
      exact commentsIff_emit (quiet_signed (Numeral.signed_finite negative rank))
    | nan => exact commentsIff_violate _
    | infinite negative => exact commentsIff_violate _
  | _ => exact commentsIff_fixed rfl

theorem commentsIff_writeFills {fills : List Fill} (h : ∀ f ∈ fills, (fill f).Exact) :
    CommentsIff (Fill.writeList fills) (∃ f ∈ fills, (fill f).DoublesMinus) := by
  rw [Fill.writeList]
  split
  · rename_i hempty
    obtain rfl := List.isEmpty_iff.1 hempty
    exact commentsIff_pure.congr (by simp)
  · exact ((commentsIff_fixed rfl).bind <| (commentsIff_separated rfl h).bind
      (commentsIff_fixed rfl)).congr (by simp)

theorem commentsIff_alignment (align : Alignment) : CommentsIff align.write False := by
  cases align with
  | calendar timeZone offset =>
    have hquoted : ∀ text : Option String, ∀ s ∈ text.map Token.quoted, Quiet s.toList := by
      intro text s hs
      obtain ⟨body, -, rfl⟩ := Option.mem_map.1 hs
      exact quiet_quoted body
    exact ((commentsIff_fixed rfl).bind <|
      (commentsIff_emitOptional (quiet_text _ rfl) (hquoted timeZone)).bind
      (commentsIff_emitOptional (quiet_text _ rfl) (hquoted offset))).congr (by simp)
  | firstObservation => exact commentsIff_fixed rfl

theorem commentsIff_sampleBy {s : SampleBy} (h : ∀ child ∈ (sampleBy s).children, child.Exact) :
    (sampleBy s).Exact := by
  obtain ⟨hfills, halign⟩ :
      (∀ f ∈ s.fill, (fill f).Exact) ∧ ∀ a ∈ s.align, (alignment a).Exact := by
    simpa [children, or_imp, forall_and] using h
  refine CommentsIff.congr ?_ doublesMinus_iff.symm
  rw [write, SampleBy.write]
  refine commentsIff_require fun hcheck => ?_
  have hinterval : Quiet ("SAMPLE BY " ++ s.interval).toList := by
    rw [String.toList_append]
    exact (quiet_text "SAMPLE BY " rfl).append
      (quiet_period (Check.period_eq_ok_iff.1 hcheck))
  exact ((commentsIff_emit hinterval).bind <| (commentsIff_writeFills hfills).bind
    (commentsIff_emitClause rfl halign)).congr
    (by simp [children, or_and_right, exists_or])

theorem commentsIff_latestOn (l : LatestOn) : CommentsIff l.write False := by
  rw [LatestOn.write]
  split
  · exact commentsIff_violate _
  · apply commentsIff_emit
    simp only [String.toList_append]
    exact (((quiet_text "LATEST ON " rfl).append (quiet_name l.timestamp)).append
      (quiet_text " PARTITION BY " rfl)).append (quiet_names l.keys)

theorem commentsIff_limit (l : Limit) : CommentsIff l.write False := by
  have hcount : Quiet ("LIMIT " ++ toString l.count).toList := by
    rw [String.toList_append]
    exact (quiet_text "LIMIT " rfl).append (quiet_integer l.count)
  have hoffset : ∀ s ∈ l.offset.map toString, Quiet s.toList := by
    intro s hs
    obtain ⟨n, -, rfl⟩ := Option.mem_map.1 hs
    exact quiet_integer n
  rw [Limit.write]
  exact ((commentsIff_emit hcount).bind
    (commentsIff_emitOptional (quiet_text _ rfl) hoffset)).congr (by simp)

theorem commentsIff_select {s : Select} (h : ∀ child ∈ (select s).children, child.Exact) :
    (select s).Exact := by
  refine CommentsIff.congr ?_ doublesMinus_iff.symm
  simp only [children, List.forall_mem_append, List.forall_mem_cons, List.forall_mem_map,
    Option.mem_toList] at h
  obtain ⟨⟨⟨⟨⟨⟨⟨hprojections, hsource, hjoins⟩, hlatest⟩, hcondition⟩, hsample⟩, hgroupBy⟩,
    horderBy⟩, hlimit⟩ := h
  have hopening : isQuiet (if s.distinct then "SELECT DISTINCT " else "SELECT ").toList := by
    cases s.distinct <;> rfl
  rw [write, Select.write_eq, Projection.writeList_eq, OrderItem.writeList_eq]
  refine commentsIff_require fun _ => ?_
  exact ((commentsIff_fixed hopening).bind <| ((commentsIff_fixed rfl).runIf _).bind <|
    (commentsIff_separated rfl hprojections).bind <| (commentsIff_fixed rfl).bind <|
    CommentsIff.bind hsource <| (commentsIff_writeLines hjoins).bind <|
    (commentsIff_emitClause rfl hlatest).bind <| (commentsIff_writeOptional rfl hcondition).bind <|
    (commentsIff_emitClause rfl hsample).bind <| ((commentsIff_fixed rfl).runIf _).bind <|
    (commentsIff_writeList hgroupBy).bind <| ((commentsIff_fixed rfl).runIf _).bind <|
    (commentsIff_separated rfl horderBy).bind (commentsIff_emitClause rfl hlimit)).congr
    (by simp [children, or_and_right, exists_or])

/-- A node without nodes below it opens no comment. -/
theorem exact_of_leaf {node : Node} (hleaf : node.children = [])
    (hnode : ∀ e, node ≠ .expr e) (h : CommentsIff node.write False) : node.Exact :=
  h.congr (doublesMinus_iff.trans (by simp [hleaf, hnode])).symm

/-- The nodes right below a node decide for it. -/
theorem exact_of_children {node : Node} (hraw : node.HasNoRaw)
    (h : ∀ child ∈ node.children, child.Exact) : node.Exact := by
  cases node with
  | expr e => exact commentsIff_expr hraw h
  | projection p =>
    have he : (expr p.expr).Exact := h _ (List.mem_singleton_self _)
    obtain ⟨e, label⟩ := p
    refine CommentsIff.congr ?_ doublesMinus_iff.symm
    rw [write, Projection.write]
    exact (CommentsIff.bind he (commentsIff_labelled label)).congr (by simp [children])
  | source s =>
    refine CommentsIff.congr ?_ doublesMinus_iff.symm
    cases s with
    | table name label =>
      have hlabel : ∀ s ∈ label.map Token.name, Quiet s.toList := by
        intro s hs
        obtain ⟨n, -, rfl⟩ := Option.mem_map.1 hs
        exact quiet_name n
      rw [write, Source.write]
      exact ((commentsIff_emit (quiet_name name)).bind
        (commentsIff_emitOptional (quiet_text _ rfl) hlabel)).congr (by simp [children])
    | select s label =>
      have hselect : (select s).Exact := h _ (List.mem_singleton_self _)
      have hlabel : Quiet (") " ++ Token.name label).toList := by
        rw [String.toList_append]
        exact (quiet_text ") " rfl).append (quiet_name label)
      rw [write, Source.write]
      exact ((commentsIff_fixed rfl).bind <| CommentsIff.bind hselect
        (commentsIff_emit hlabel)).congr (by simp [children])
  | join j => exact commentsIff_join h
  | orderItem item =>
    have he : (expr item.expr).Exact := h _ (List.mem_singleton_self _)
    obtain ⟨e, direction⟩ := item
    have hdirection : isQuiet (" " ++ direction.word).toList := by
      cases direction <;> rfl
    refine CommentsIff.congr ?_ doublesMinus_iff.symm
    rw [write, OrderItem.write]
    exact (CommentsIff.bind he (commentsIff_fixed hdirection)).congr (by simp [children])
  | fill f => exact exact_of_leaf rfl (by simp) (commentsIff_fill f)
  | alignment align => exact exact_of_leaf rfl (by simp) (commentsIff_alignment align)
  | sampleBy s => exact commentsIff_sampleBy h
  | latestOn l => exact exact_of_leaf rfl (by simp) (commentsIff_latestOn l)
  | limit l => exact exact_of_leaf rfl (by simp) (commentsIff_limit l)
  | select s => exact commentsIff_select h

/-- A node opens a comment exactly when a minus sign is doubled in its tree. -/
theorem exact (root : Node) (hraw : root.HasNoRaw) : root.Exact := by
  refine exact_of_children hraw fun child hchild => ?_
  have hsize := sizeOf_lt_of_mem_children hchild
  exact exact child (hraw.child hchild)
termination_by sizeOf root

end Node

inductive Statement where
  | select (select : Select)
  | insert (insert : Insert)
  | update (update : Update)

namespace Statement

def write : Statement → Writer Unit
  | select s => s.write
  | insert i => i.write
  | update u => u.write

def roots : Statement → List Node
  | select s => [.select s]
  | insert _ => []
  | update u =>
    u.assignments.map (fun a => .expr a.expr) ++ u.source.toList.map .source ++
      u.condition.toList.map .expr

def Contains (statement : Statement) (node : Node) : Prop :=
  ∃ root ∈ statement.roots, root.Contains node

/-- No SQL is given as it is, in a tree or in a cell, apart from the star of a count. -/
def HasNoRaw : Statement → Prop
  | insert i => ∀ row ∈ i.rows, ∀ sql, InsertCell.raw sql ∉ row
  | statement => ∀ root ∈ statement.roots, root.HasNoRaw

theorem commentsIff_insert {i : Insert} (hraw : (insert i).HasNoRaw) :
    CommentsIff i.write False := by
  have hcells : ∀ row ∈ i.rows, ∀ entry ∈ row.zip i.types,
      CommentsIff (InsertCell.write entry.2 entry.1) False := by
    rintro row hrow ⟨cell, type⟩ hentry
    cases cell with
    | value v =>
      rw [InsertCell.write]
      exact commentsIff_literal
    | raw sql => exact absurd (List.of_mem_zip hentry).1 (hraw row hrow sql)
  have hrows : ∀ row ∈ i.rows, CommentsIff (Insert.writeRow i.types row) False := by
    intro row hrow
    rw [Insert.writeRow]
    exact ((commentsIff_fixed rfl).bind <| (commentsIff_separated rfl (hcells row hrow)).bind
      (commentsIff_fixed rfl)).congr (by simp)
  have hopening : Quiet ("INSERT INTO " ++ Token.name i.table ++ " (" ++ Token.names i.columns ++
      ") VALUES").toList := by
    simp only [String.toList_append]
    exact ((((quiet_text "INSERT INTO " rfl).append (quiet_name i.table)).append
      (quiet_text " (" rfl)).append (quiet_names i.columns)).append
      (quiet_text ") VALUES" rfl)
  rw [Insert.write]
  refine commentsIff_require fun _ => ?_
  exact ((commentsIff_emit hopening).bind (commentsIff_separated rfl hrows)).congr (by simp)

theorem commentsIff_update {u : Update} (hraw : (update u).HasNoRaw) :
    CommentsIff u.write (∃ root ∈ (update u).roots, root.DoublesMinus) := by
  have hexact : ∀ root ∈ (update u).roots, root.Exact := fun root hroot =>
    Node.exact root (hraw root hroot)
  simp only [roots, List.forall_mem_append, List.forall_mem_map, Option.mem_toList] at hexact
  obtain ⟨⟨hassignments, hsource⟩, hcondition⟩ := hexact
  have hassigned : ∀ a ∈ u.assignments, CommentsIff a.write (Node.expr a.expr).DoublesMinus := by
    intro a ha
    have hcolumn : Quiet (Token.name a.column ++ " = ").toList := by
      rw [String.toList_append]
      exact (quiet_name a.column).append (quiet_text _ rfl)
    rw [Assignment.write]
    exact ((commentsIff_emit hcolumn).bind (hassignments a ha)).congr (by simp)
  have hopening : Quiet ("UPDATE " ++ Token.name u.table ++ "\nSET ").toList := by
    simp only [String.toList_append]
    exact ((quiet_text "UPDATE " rfl).append (quiet_name u.table)).append
      (quiet_text "\nSET " rfl)
  rw [Update.write]
  refine commentsIff_require fun _ => ?_
  exact ((commentsIff_emit hopening).bind <| (commentsIff_separated rfl hassigned).bind <|
    (commentsIff_emitClause rfl hsource).bind
    (Node.commentsIff_writeOptional rfl hcondition)).congr
    (by simp [roots, or_and_right, exists_or])

theorem commentsIff_write {statement : Statement} (hraw : statement.HasNoRaw) :
    CommentsIff statement.write (∃ root ∈ statement.roots, root.DoublesMinus) := by
  cases statement with
  | select s => exact CommentsIff.congr (Node.exact _ (hraw _ List.mem_cons_self)) (by simp [roots])
  | insert i => exact (commentsIff_insert hraw).congr (by simp [roots])
  | update u => exact commentsIff_update hraw

instance steady_write (statement : Statement) : Steady statement.write := by
  cases statement with
  | select s => exact s.steady_write
  | insert i => exact i.steady_write
  | update u => exact u.steady_write

end Statement

/-- A statement opens a comment exactly when somewhere in it a minus sign is put in front of an
operand that starts with one. -/
theorem Statement.opens_comment_iff {statement : Statement} (hraw : statement.HasNoRaw)
    {text : String} (h : statement.write.toSql = .ok text) :
    opens none text.toList ↔
      ∃ operand : Expr, statement.Contains (.expr (.unary .neg operand)) ∧ operand.StartsMinus := by
  rw [(commentsIff_write hraw text (toSql_eq_ok_iff.1 h)).2]
  constructor
  · rintro ⟨root, hroot, operand, hcontains, hstarts⟩
    exact ⟨operand, ⟨root, hroot, hcontains⟩, hstarts⟩
  · rintro ⟨operand, ⟨root, hroot, hcontains⟩, hstarts⟩
    exact ⟨root, hroot, operand, hcontains, hstarts⟩

/-- The negation of minus five as a result column. -/
theorem Statement.opens_comment_iff_negatedNumber :
    let operand := Expr.literal (.int (-5)) .long
    let columns := [Projection.mk (.unary .neg operand) none]
    let statement := Statement.select
      { Select.ofSource (.table "t" none) with projections := columns }
    statement.HasNoRaw ∧ statement.write.toSql = .ok "SELECT (--5)\nFROM t" ∧
      opens none "SELECT (--5)\nFROM t".toList := by
  intro operand columns statement
  have hnumber : (Node.expr operand).HasNoRaw :=
    Node.hasNoRaw_of_children (by simp [operand]) (List.forall_mem_nil _)
  have hnegation : (Node.expr (.unary .neg operand)).HasNoRaw :=
    Node.hasNoRaw_of_children nofun (List.forall_mem_singleton.2 hnumber)
  have hcolumn : (Node.projection ⟨.unary .neg operand, none⟩).HasNoRaw :=
    Node.hasNoRaw_of_children nofun (List.forall_mem_singleton.2 hnegation)
  have htable : (Node.source (.table "t" none)).HasNoRaw :=
    Node.hasNoRaw_of_children nofun (List.forall_mem_nil _)
  have hraw : statement.HasNoRaw :=
    List.forall_mem_singleton.2 <| Node.hasNoRaw_of_children nofun <|
      List.forall_mem_cons.2 ⟨hcolumn, List.forall_mem_singleton.2 htable⟩
  have hcontains : statement.Contains (.expr (.unary .neg operand)) :=
    ⟨_, List.mem_cons_self, .child (.child .root List.mem_cons_self) List.mem_cons_self⟩
  have htext : statement.write.toSql = .ok "SELECT (--5)\nFROM t" := rfl
  exact ⟨hraw, htext, (opens_comment_iff hraw htext).2 ⟨operand, hcontains, "-5", rfl, rfl⟩⟩

end SeriesSql
