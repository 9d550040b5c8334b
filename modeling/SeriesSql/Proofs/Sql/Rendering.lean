import Mathlib
import SeriesSql.Proofs.Sql.Writer
import SeriesSql.Sql.Change

/-!
# Every statement is written steadily

The writers of expressions, selects, inserts and updates, and of all their parts, do the same to
any text.
-/

namespace SeriesSql

open Writer

namespace Writer

instance steady_violate (violation : Violation) : Steady (violate violation) :=
  steady_throw _

instance steady_emitOptional (before : String) (part : Option String) :
    Steady (emitOptional before part) := by
  cases part with
  | none => exact steady_pure
  | some text => exact steady_emit _

instance steady_emitClause {α : Type} (before : String) (part : Option α)
    {write : α → Writer Unit} [∀ a, Steady (write a)] :
    Steady (emitClause before part write) := by
  cases part with
  | none => exact steady_pure
  | some a => exact steady_bind

/-- A step that is left out unless a condition holds. -/
def runIf (c : Bool) (w : Writer Unit) : Writer Unit :=
  if c then w else pure ()

theorem ite_bind_eq (c : Bool) (w : Writer Unit) (next : Unit → Writer Unit) :
    (if c then w >>= next else next ()) = runIf c w >>= next := by
  cases c <;> rfl

instance steady_ite {p : Prop} [Decidable p] {w w' : Writer Unit} [h : Steady w]
    [h' : Steady w'] : Steady (if p then w else w') := by
  split
  · exact h
  · exact h'

instance steady_runIf (c : Bool) {w : Writer Unit} [Steady w] : Steady (runIf c w) :=
  steady_ite

end Writer

instance Token.steady_labelled (label : Option String) : Steady (Token.labelled label) :=
  steady_emitOptional _ _

instance Fill.steady_write (fill : Fill) : Steady fill.write := by
  cases fill <;> rw [Fill.write] <;> infer_instance

instance Fill.steady_writeList (fills : List Fill) : Steady (Fill.writeList fills) := by
  rw [Fill.writeList]
  infer_instance

instance Alignment.steady_write (align : Alignment) : Steady align.write := by
  cases align <;> rw [Alignment.write] <;> infer_instance

instance SampleBy.steady_write (sampleBy : SampleBy) : Steady sampleBy.write := by
  rw [SampleBy.write]
  infer_instance

instance LatestOn.steady_write (latestOn : LatestOn) : Steady latestOn.write := by
  rw [LatestOn.write]
  infer_instance

instance Limit.steady_write (limit : Limit) : Steady limit.write := by
  rw [Limit.write]
  infer_instance

/-! ### Expressions and selects -/

theorem Expr.write_inList (subject : Expr) (values : List Expr) :
    (Expr.inList subject values).write = (do
      runIf values.isEmpty (violate .emptyInList)
      subject.write
      emit " IN ("
      Expr.writeList values
      emit ")") := by
  rw [Expr.write]
  exact ite_bind_eq _ _ _

/-- A select is written clause by clause. -/
theorem Select.write_eq (select : Select) :
    select.write = (do
      require select.check
      emit (if select.distinct then "SELECT DISTINCT " else "SELECT ")
      runIf select.projections.isEmpty (emit "*")
      Projection.writeList select.projections
      emit "\nFROM "
      select.source.write
      Join.writeLines select.joins
      emitClause "\n" select.latestOn LatestOn.write
      Expr.writeOptional "\nWHERE " select.condition
      emitClause "\n" select.sampleBy SampleBy.write
      runIf (!select.groupBy.isEmpty) (emit "\nGROUP BY ")
      Expr.writeList select.groupBy
      runIf (!select.orderBy.isEmpty) (emit "\nORDER BY ")
      OrderItem.writeList select.orderBy
      emitClause "\n" select.limit Limit.write) := by
  obtain ⟨distinct, projections, source, joins, condition, groupBy, orderBy, limit, sampleBy,
    latestOn⟩ := select
  rw [Select.write]
  cases projections <;> cases groupBy <;> cases orderBy <;> rfl

mutual

theorem Expr.steady_write (e : Expr) : Steady e.write := by
  cases e with
  | column qualifier name => rw [Expr.write]; infer_instance
  | literal value type => rw [Expr.write]; infer_instance
  | binary op left right =>
    have hleft := left.steady_write
    have hright := right.steady_write
    rw [Expr.write]
    infer_instance
  | unary op operand =>
    have hoperand := operand.steady_write
    rw [Expr.write]
    infer_instance
  | call kind function args label =>
    have hargs := Expr.steady_writeList args
    rw [Expr.write]
    infer_instance
  | subquery select =>
    have hselect := select.steady_write
    rw [Expr.write]
    infer_instance
  | inInterval subject interval =>
    have hsubject := subject.steady_write
    rw [Expr.write]
    infer_instance
  | inList subject values =>
    have hsubject := subject.steady_write
    have hvalues := Expr.steady_writeList values
    rw [Expr.write_inList]
    infer_instance
  | between subject low high =>
    have hsubject := subject.steady_write
    have hlow := low.steady_write
    have hhigh := high.steady_write
    rw [Expr.write]
    infer_instance
  | isNull subject negated =>
    have hsubject := subject.steady_write
    rw [Expr.write]
    infer_instance
  | raw sql => rw [Expr.write]; infer_instance

theorem Expr.steady_writeList (es : List Expr) : Steady (Expr.writeList es) := by
  cases es with
  | nil => exact steady_pure
  | cons e rest =>
    have he := e.steady_write
    have hrest := Expr.steady_writeRest rest
    rw [Expr.writeList]
    infer_instance

theorem Expr.steady_writeRest (es : List Expr) : Steady (Expr.writeRest es) := by
  cases es with
  | nil => exact steady_pure
  | cons e rest =>
    have he := e.steady_write
    have hrest := Expr.steady_writeRest rest
    rw [Expr.writeRest]
    infer_instance

theorem Expr.steady_writeOptional (before : String) (e : Option Expr) :
    Steady (Expr.writeOptional before e) := by
  cases e with
  | none => exact steady_pure
  | some e =>
    have he := e.steady_write
    rw [Expr.writeOptional]
    infer_instance

theorem Projection.steady_write (p : Projection) : Steady p.write := by
  cases p with
  | mk e label =>
    have he := e.steady_write
    rw [Projection.write]
    infer_instance

theorem Projection.steady_writeList (ps : List Projection) : Steady (Projection.writeList ps) := by
  cases ps with
  | nil => exact steady_pure
  | cons p rest =>
    have hp := p.steady_write
    have hrest := Projection.steady_writeRest rest
    rw [Projection.writeList]
    infer_instance

theorem Projection.steady_writeRest (ps : List Projection) : Steady (Projection.writeRest ps) := by
  cases ps with
  | nil => exact steady_pure
  | cons p rest =>
    have hp := p.steady_write
    have hrest := Projection.steady_writeRest rest
    rw [Projection.writeRest]
    infer_instance

theorem Source.steady_write (source : Source) : Steady source.write := by
  cases source with
  | table name label => rw [Source.write]; infer_instance
  | select select label =>
    have hselect := select.steady_write
    rw [Source.write]
    infer_instance

theorem Join.steady_write (join : Join) : Steady join.write := by
  cases join with
  | mk kind source predicate tolerance =>
    have hsource := source.steady_write
    have hpredicate := Expr.steady_writeOptional " ON " predicate
    rw [Join.write]
    infer_instance

theorem Join.steady_writeLines (joins : List Join) : Steady (Join.writeLines joins) := by
  cases joins with
  | nil => exact steady_pure
  | cons join rest =>
    have hjoin := join.steady_write
    have hrest := Join.steady_writeLines rest
    rw [Join.writeLines]
    infer_instance

theorem OrderItem.steady_write (item : OrderItem) : Steady item.write := by
  cases item with
  | mk e direction =>
    have he := e.steady_write
    rw [OrderItem.write]
    infer_instance

theorem OrderItem.steady_writeList (items : List OrderItem) :
    Steady (OrderItem.writeList items) := by
  cases items with
  | nil => exact steady_pure
  | cons item rest =>
    have hitem := item.steady_write
    have hrest := OrderItem.steady_writeRest rest
    rw [OrderItem.writeList]
    infer_instance

theorem OrderItem.steady_writeRest (items : List OrderItem) :
    Steady (OrderItem.writeRest items) := by
  cases items with
  | nil => exact steady_pure
  | cons item rest =>
    have hitem := item.steady_write
    have hrest := OrderItem.steady_writeRest rest
    rw [OrderItem.writeRest]
    infer_instance

theorem Select.steady_write (select : Select) : Steady select.write := by
  cases select with
  | mk distinct projections source joins condition groupBy orderBy limit sampleBy latestOn =>
    have hprojections := Projection.steady_writeList projections
    have hsource := source.steady_write
    have hjoins := Join.steady_writeLines joins
    have hcondition := Expr.steady_writeOptional "\nWHERE " condition
    have hgroupBy := Expr.steady_writeList groupBy
    have horderBy := OrderItem.steady_writeList orderBy
    rw [Select.write_eq]
    infer_instance

end

attribute [instance] Expr.steady_write Expr.steady_writeList Expr.steady_writeRest
  Expr.steady_writeOptional Projection.steady_write Projection.steady_writeList
  Projection.steady_writeRest Source.steady_write Join.steady_write Join.steady_writeLines
  OrderItem.steady_write OrderItem.steady_writeList OrderItem.steady_writeRest Select.steady_write

/-! ### Lists -/

/-- A writer of a list that puts a comma in front of every item but the first separates the items
with commas. -/
theorem Writer.eq_separated {α : Type} {write : α → Writer Unit} {list rest : List α → Writer Unit}
    (hnil : list [] = pure ()) (hcons : ∀ a as, list (a :: as) = (do write a; rest as))
    (hrestNil : rest [] = pure ())
    (hrestCons : ∀ a as, rest (a :: as) = (do emit ", "; write a; rest as)) (as : List α) :
    list as = separated ", " write as := by
  induction as with
  | nil => exact hnil
  | cons a as ih =>
    cases as with
    | nil =>
      rw [hcons, hrestNil]
      exact bind_pure (write a)
    | cons next as =>
      rw [hcons, hrestCons, ← hcons, ih]
      rfl

theorem Expr.writeList_eq (es : List Expr) : Expr.writeList es = separated ", " Expr.write es :=
  eq_separated (by rw [Expr.writeList]) (fun _ _ => by rw [Expr.writeList]) (by rw [Expr.writeRest])
    (fun _ _ => by rw [Expr.writeRest]) es

theorem Projection.writeList_eq (ps : List Projection) :
    Projection.writeList ps = separated ", " Projection.write ps :=
  eq_separated (by rw [Projection.writeList]) (fun _ _ => by rw [Projection.writeList])
    (by rw [Projection.writeRest]) (fun _ _ => by rw [Projection.writeRest]) ps

theorem OrderItem.writeList_eq (items : List OrderItem) :
    OrderItem.writeList items = separated ", " OrderItem.write items :=
  eq_separated (by rw [OrderItem.writeList]) (fun _ _ => by rw [OrderItem.writeList])
    (by rw [OrderItem.writeRest]) (fun _ _ => by rw [OrderItem.writeRest]) items

/-! ### Inserts and updates -/

instance InsertCell.steady_write (type : ColumnType) (cell : InsertCell) :
    Steady (InsertCell.write type cell) := by
  cases cell <;> rw [InsertCell.write] <;> infer_instance

instance Insert.steady_writeRow (types : List ColumnType) (row : List InsertCell) :
    Steady (Insert.writeRow types row) := by
  rw [Insert.writeRow]
  infer_instance

instance Insert.steady_write (insert : Insert) : Steady insert.write := by
  rw [Insert.write]
  infer_instance

theorem Insert.succeeds_writeRow_iff (types : List ColumnType) (row : List InsertCell) :
    Succeeds (Insert.writeRow types row) ↔
      ∀ entry ∈ row.zip types, Succeeds (InsertCell.write entry.2 entry.1) := by
  rw [Insert.writeRow, succeeds_bind_iff, succeeds_bind_iff, succeeds_separated_iff]
  simp only [succeeds_emit, true_and, and_true]

/-- An insert is written when its parts go together and every cell has a literal. -/
theorem Insert.succeeds_write_iff (insert : Insert) :
    Succeeds insert.write ↔ insert.check = .ok () ∧
      ∀ row ∈ insert.rows, ∀ entry ∈ row.zip insert.types,
        Succeeds (InsertCell.write entry.2 entry.1) := by
  rw [Insert.write, succeeds_bind_iff, succeeds_require_iff, succeeds_bind_iff,
    succeeds_separated_iff]
  simp only [succeeds_emit, true_and, Insert.succeeds_writeRow_iff]

instance Assignment.steady_write (assignment : Assignment) : Steady assignment.write := by
  rw [Assignment.write]
  infer_instance

instance Update.steady_write (update : Update) : Steady update.write := by
  rw [Update.write]
  infer_instance

theorem Expr.succeeds_write_binary_iff (op : BinaryOp) (left right : Expr) :
    Succeeds (Expr.binary op left right).write ↔ Succeeds left.write ∧ Succeeds right.write := by
  rw [Expr.write, succeeds_bind_iff, succeeds_bind_iff, succeeds_bind_iff, succeeds_bind_iff]
  simp only [succeeds_emit, true_and, and_true]

theorem Expr.succeeds_writeOptional_iff (before : String) (e : Option Expr) :
    Succeeds (Expr.writeOptional before e) ↔ ∀ expr ∈ e, Succeeds expr.write := by
  cases e with
  | none =>
    rw [Expr.writeOptional]
    exact ⟨fun _ => nofun, fun _ => ⟨"", emits_pure⟩⟩
  | some expr =>
    rw [Expr.writeOptional, succeeds_bind_iff, and_iff_right (succeeds_emit before)]
    simp

theorem Writer.succeeds_emitClause_iff {α : Type} (before : String) (part : Option α)
    (write : α → Writer Unit) [∀ a, Steady (write a)] :
    Succeeds (emitClause before part write) ↔ ∀ a ∈ part, Succeeds (write a) := by
  cases part with
  | none => exact ⟨fun _ => nofun, fun _ => ⟨"", emits_pure⟩⟩
  | some a =>
    rw [emitClause, succeeds_bind_iff, and_iff_right (succeeds_emit before)]
    simp

/-- An update is written when it sets something and all of its parts are written. -/
theorem Update.succeeds_write_iff (update : Update) :
    Succeeds update.write ↔ update.assignments ≠ [] ∧
      (∀ assignment ∈ update.assignments, Succeeds assignment.expr.write) ∧
      (∀ source ∈ update.source, Succeeds source.write) ∧
      ∀ condition ∈ update.condition, Succeeds condition.write := by
  have hcheck : refuseIf update.assignments.isEmpty (.updateNoAssignments update.table) = .ok () ↔
      update.assignments ≠ [] := by
    cases update.assignments <;> simp [refuseIf]
  rw [Update.write, succeeds_bind_iff, succeeds_require_iff, hcheck, succeeds_bind_iff,
    succeeds_bind_iff, succeeds_separated_iff, succeeds_bind_iff, succeeds_emitClause_iff,
    Expr.succeeds_writeOptional_iff]
  simp only [Assignment.write, succeeds_bind_iff, succeeds_emit, true_and]

end SeriesSql
