import Mathlib
import SeriesSql.Proofs.Sql.SelectReader

/-!
# Statements are unambiguous

What is written for a plain expression or select is read back as its shape. Two of them with the
same text therefore have the same shape: names, labels and interval texts cannot change the
structure of a statement, whatever characters they hold.
-/

namespace SeriesSql

open Writer Reader

namespace Expr

/-! ### Expressions -/

theorem isRead_column {qualifier : Option String} {n : String}
    (hplain : (Expr.column qualifier n).IsPlain) : (Expr.column qualifier n).IsRead := by
  intro text h
  rw [Expr.write, emits_emit_iff] at h
  rw [h, Expr.shape]
  exact reads_column hplain.1 hplain.2

theorem isRead_literal (value : Value) (type : ColumnType) :
    (Expr.literal value type).IsRead := by
  intro text h
  rw [Expr.write, emits_emitResult_iff] at h
  rw [Expr.shape, h]
  exact reads_literal (isLexeme_ofValue h)

theorem isRead_binary (op : BinaryOp) {left right : Expr} (hleft : left.IsRead)
    (hright : right.IsRead) : (Expr.binary op left right).IsRead := by
  intro text h
  simp only [Expr.write, emits_bind_iff, emits_emit_iff] at h
  obtain ⟨_, _, rfl, rfl, l, _, rfl, hl, _, _, rfl, rfl, r, _, rfl, hr, rfl⟩ := h
  have hread := reads_binary op (hleft l hl) (hright r hr)
  rw [Expr.shape]
  simp only [String.toList_append] at hread ⊢
  exact hread

theorem isRead_unary (op : UnaryOp) {operand : Expr} (hoperand : operand.IsRead) :
    (Expr.unary op operand).IsRead := by
  intro text h
  simp only [Expr.write, emits_bind_iff, emits_emit_iff] at h
  obtain ⟨_, _, rfl, rfl, inner, _, rfl, hinner, rfl⟩ := h
  rw [Expr.shape]
  cases op with
  | not => simpa [UnaryOp.sign] using reads_not (hoperand inner hinner)
  | neg => simpa [UnaryOp.sign] using reads_neg (hoperand inner hinner)

theorem isRead_subquery {nested : Select} (hnested : nested.IsRead) :
    (Expr.subquery nested).IsRead := by
  intro text h
  simp only [Expr.write, emits_bind_iff, emits_emit_iff] at h
  obtain ⟨_, _, rfl, rfl, inner, _, rfl, hinner, rfl⟩ := h
  obtain ⟨body, hbody, hread⟩ := hnested inner hinner
  rw [Expr.shape, String.toList_append, String.toList_append, hbody]
  exact reads_subquery fun rest => hread _ (.close rest)

theorem isRead_inInterval {subject : Expr} (hsubject : subject.IsRead) (interval : String) :
    (Expr.inInterval subject interval).IsRead := by
  intro text h
  simp only [Expr.write, emits_bind_iff, emits_emit_iff] at h
  obtain ⟨s, _, rfl, hs, rfl⟩ := h
  rw [Expr.shape, String.toList_append, String.toList_append]
  exact reads_inInterval (hsubject s hs) interval

theorem isRead_between {subject low high : Expr} (hsubject : subject.IsRead) (hlow : low.IsRead)
    (hhigh : high.IsRead) : (Expr.between subject low high).IsRead := by
  intro text h
  simp only [Expr.write, emits_bind_iff, emits_emit_iff] at h
  obtain ⟨_, _, rfl, rfl, s, _, rfl, hs, _, _, rfl, rfl, l, _, rfl, hl, _, _, rfl, rfl, u, _, rfl,
    hu, rfl⟩ := h
  have hread := reads_between (hsubject s hs) (hlow l hl) (hhigh u hu)
  rw [Expr.shape]
  simp only [String.toList_append] at hread ⊢
  exact hread

theorem isRead_isNull {subject : Expr} (hsubject : subject.IsRead) (negated : Bool) :
    (Expr.isNull subject negated).IsRead := by
  intro text h
  simp only [Expr.write, emits_bind_iff, emits_emit_iff] at h
  obtain ⟨s, _, rfl, hs, rfl⟩ := h
  rw [Expr.shape, String.toList_append]
  exact reads_isNull (hsubject s hs) negated

theorem isRead_inList {subject : Expr} {values : List Expr} (hsubject : subject.IsRead)
    (hvalues : ∀ e ∈ values, e.IsRead) : (Expr.inList subject values).IsRead := by
  intro text h
  rw [Expr.write_inList] at h
  simp only [emits_bind_iff, emits_emit_iff] at h
  obtain ⟨_, _, rfl, hempty, s, _, rfl, hs, _, _, rfl, rfl, inner, _, rfl, hinner, rfl⟩ := h
  cases values with
  | nil => exact absurd hempty (stops_throw _).not_emits
  | cons e values =>
    obtain rfl := emits_pure_iff.1 hempty
    have hitems := items_expr (List.cons_ne_nil e values) hvalues hinner
    have hread := reads_inList (hsubject s hs) hitems
    rw [Expr.shape]
    simp only [String.toList_append] at hread ⊢
    exact hread

theorem isRead_call (kind : CallKind) {function : String} {args : List Expr}
    (hfunction : function ∉ bareWords) (hargs : args = [.raw "*"] ∨ ∀ e ∈ args, e.IsRead) :
    (Expr.call kind function args none).IsRead := by
  intro text h
  simp only [Expr.write, emits_bind_iff, emits_emit_iff] at h
  obtain ⟨_, _, rfl, rfl, inner, _, rfl, hinner, _, label, rfl, rfl, hlabel⟩ := h
  obtain rfl : label = "" := emits_pure_iff.1 hlabel
  have hread : Reads ((Token.name function).toList ++ '(' :: (inner.toList ++ [')']))
      (.call function (Expr.shapes args) none) := by
    apply reads_call hfunction
    intro rest
    rcases hargs with rfl | hargs
    · obtain rfl : inner = "*" := by
        simpa [Expr.writeList, Expr.writeRest, Expr.write] using hinner
      exact settles_star function rest
    · cases args with
      | nil =>
        rw [Expr.writeList] at hinner
        obtain rfl := emits_pure_iff.1 hinner
        exact settles_noArgs function rest
      | cons e args =>
        have hne := List.cons_ne_nil e args
        exact settles_args function (opens_expr hne hargs hinner) (items_expr hne hargs hinner) rest
  rw [Expr.shape]
  simpa using hread

end Expr

/-! ### Whole trees -/

-- The induction is on the tree alone: what may come after a text is part of `IsRead`, so a nested
-- text is read back the same in every place.
mutual

theorem Expr.isRead (e : Expr) (hplain : e.IsPlain) : e.IsRead := by
  cases e with
  | column qualifier name => exact Expr.isRead_column hplain
  | literal value type => exact Expr.isRead_literal value type
  | binary op left right =>
    rw [Expr.IsPlain] at hplain
    exact Expr.isRead_binary op (left.isRead hplain.1) (right.isRead hplain.2)
  | unary op operand =>
    rw [Expr.IsPlain] at hplain
    exact Expr.isRead_unary op (operand.isRead hplain)
  | call kind function args label =>
    rw [Expr.IsPlain] at hplain
    obtain ⟨hfunction, rfl, hargs⟩ := hplain
    exact Expr.isRead_call kind hfunction (hargs.imp_right (Expr.areRead args))
  | subquery select =>
    rw [Expr.IsPlain] at hplain
    exact Expr.isRead_subquery (select.isRead hplain)
  | inInterval subject interval =>
    rw [Expr.IsPlain] at hplain
    exact Expr.isRead_inInterval (subject.isRead hplain) interval
  | inList subject values =>
    rw [Expr.IsPlain] at hplain
    exact Expr.isRead_inList (subject.isRead hplain.1) (Expr.areRead values hplain.2)
  | between subject low high =>
    rw [Expr.IsPlain] at hplain
    obtain ⟨hsubject, hlow, hhigh⟩ := hplain
    exact Expr.isRead_between (subject.isRead hsubject) (low.isRead hlow) (high.isRead hhigh)
  | isNull subject negated =>
    rw [Expr.IsPlain] at hplain
    exact Expr.isRead_isNull (subject.isRead hplain) negated
  | raw sql =>
    rw [Expr.IsPlain] at hplain
    exact hplain.elim

theorem Expr.areRead (es : List Expr) (hplain : Expr.ArePlain es) : ∀ e ∈ es, e.IsRead := by
  cases es with
  | nil => exact List.forall_mem_nil _
  | cons e rest =>
    rw [Expr.ArePlain] at hplain
    exact List.forall_mem_cons.2 ⟨e.isRead hplain.1, Expr.areRead rest hplain.2⟩

theorem Expr.isRead? (part : Option Expr) (hplain : Expr.IsPlain? part) :
    ∀ e ∈ part, e.IsRead := by
  cases part with
  | none => exact nofun
  | some e =>
    rw [Expr.IsPlain?] at hplain
    intro other hother
    obtain rfl := Option.some.inj hother
    exact e.isRead hplain

theorem Projection.areRead (ps : List Projection) (hplain : Projection.ArePlain ps) :
    ∀ p ∈ ps, p.expr.IsRead ∧ IsFree? p.label := by
  cases ps with
  | nil => exact List.forall_mem_nil _
  | cons p rest =>
    cases p with
    | mk e label =>
      rw [Projection.ArePlain] at hplain
      obtain ⟨he, hlabel, hrest⟩ := hplain
      exact List.forall_mem_cons.2 ⟨⟨e.isRead he, hlabel⟩, Projection.areRead rest hrest⟩

theorem Source.isRead (rows : Source) (hplain : rows.IsPlain) : rows.IsRead := by
  cases rows with
  | table name label =>
    rw [Source.IsPlain] at hplain
    exact Source.isRead_table hplain.1 hplain.2
  | select nested label =>
    rw [Source.IsPlain] at hplain
    exact Source.isRead_select (nested.isRead hplain.1) hplain.2

theorem Join.areRead (joins : List Join) (hplain : Join.ArePlain joins) :
    ∀ join ∈ joins, join.IsRead := by
  cases joins with
  | nil => exact List.forall_mem_nil _
  | cons join rest =>
    cases join with
    | mk kind source predicate tolerance =>
      rw [Join.ArePlain] at hplain
      obtain ⟨hsource, hpredicate, hrest⟩ := hplain
      exact List.forall_mem_cons.2
        ⟨⟨source.isRead hsource, Expr.isRead? predicate hpredicate⟩, Join.areRead rest hrest⟩

theorem OrderItem.areRead (items : List OrderItem) (hplain : OrderItem.ArePlain items) :
    ∀ item ∈ items, item.expr.IsRead := by
  cases items with
  | nil => exact List.forall_mem_nil _
  | cons item rest =>
    cases item with
    | mk e direction =>
      rw [OrderItem.ArePlain] at hplain
      exact List.forall_mem_cons.2 ⟨e.isRead hplain.1, OrderItem.areRead rest hplain.2⟩

theorem Select.isRead (s : Select) (hplain : s.IsPlain) : s.IsRead := by
  cases s with
  | mk distinct projections source joins condition groupBy orderBy limit sampleBy latestOn =>
    rw [Select.IsPlain] at hplain
    obtain ⟨hprojections, hsource, hjoins, hcondition, hgroupBy, horderBy, hlatestOn⟩ := hplain
    exact isRead_of_parts (Projection.areRead projections hprojections) (source.isRead hsource)
      (Join.areRead joins hjoins) (Expr.isRead? condition hcondition)
      (Expr.areRead groupBy hgroupBy) (OrderItem.areRead orderBy horderBy) hlatestOn

end

theorem Expr.shape_eq_of_toSql_eq {e e' : Expr} (hplain : e.IsPlain) (hplain' : e'.IsPlain)
    {text : String} (h : e.write.toSql = .ok text) (h' : e'.write.toSql = .ok text) :
    e.shape = e'.shape := by
  have hread := (e.isRead hplain text (toSql_eq_ok_iff.1 h)).settles .nil
  have hread' := (e'.isRead hplain' text (toSql_eq_ok_iff.1 h')).settles .nil
  exact congrArg Prod.fst (hread.unique hread')

theorem Select.shape_eq_of_toSql_eq {s s' : Select} (hplain : s.IsPlain) (hplain' : s'.IsPlain)
    {text : String} (h : s.write.toSql = .ok text) (h' : s'.write.toSql = .ok text) :
    s.shape = s'.shape := by
  obtain ⟨body, hbody, hread⟩ := s.isRead hplain text (toSql_eq_ok_iff.1 h)
  obtain ⟨body', hbody', hread'⟩ := s'.isRead hplain' text (toSql_eq_ok_iff.1 h')
  obtain rfl := List.append_cancel_left (hbody.symm.trans hbody')
  exact congrArg Prod.fst ((hread [] .nil).unique (hread' [] .nil))

/-- Plain expressions with the same text have the same shape, and so have plain selects, whatever
characters are in their names, labels and intervals. -/
theorem shape_determined_by_text :
    (∀ e e' : Expr, e.IsPlain → e'.IsPlain → ∀ text, e.write.toSql = .ok text →
      e'.write.toSql = .ok text → e.shape = e'.shape) ∧
    (∀ s s' : Select, s.IsPlain → s'.IsPlain → ∀ text, s.write.toSql = .ok text →
      s'.write.toSql = .ok text → s.shape = s'.shape) :=
  ⟨fun _ _ hplain hplain' _ h h' => Expr.shape_eq_of_toSql_eq hplain hplain' h h',
    fun _ _ hplain hplain' _ h h' => Select.shape_eq_of_toSql_eq hplain hplain' h h'⟩

/-- A call with a number and a call over a group with a number of another type have one shape, next
to a column with a quote in its name and in the source of a select. -/
theorem shape_determined_by_text_call :
    (Expr.binary .eq (.call .scalar "f" [.literal (.bigInt 1) .int] none)
        (.column none "a\" --")).shape =
      (Expr.binary .eq (.call .aggregate "f" [.literal (.bigInt 1) .long] none)
        (.column none "a\" --")).shape ∧
    (Select.ofSource (.select { Select.ofSource (.table "t" none) with
        condition := some (.call .scalar "f" [.literal (.bigInt 1) .int] none) } "u")).shape =
      (Select.ofSource (.select { Select.ofSource (.table "t" none) with
        condition := some (.call .aggregate "f" [.literal (.bigInt 1) .long] none) }
          "u")).shape := by
  refine ⟨shape_determined_by_text.1 _ _ ?_ ?_ "(f(1) = \"a\"\" --\")" rfl rfl,
    shape_determined_by_text.2 _ _ ?_ ?_
      "SELECT *\nFROM (SELECT *\nFROM t\nWHERE f(1)) u" rfl rfl⟩ <;>
    simp [Select.ofSource, IsFree?, bareWords]

end SeriesSql
