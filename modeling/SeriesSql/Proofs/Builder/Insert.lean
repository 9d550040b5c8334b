import Mathlib
import SeriesSql.Builder.Insert
import SeriesSql.Proofs.Check
import SeriesSql.Proofs.Keyed
import SeriesSql.Proofs.Sql.Rendering

/-!
# Inserts hold what was accepted

A caller offers rows to a builder one after the other, each as the cells that it sets in order. A
row is accepted if the last cell that it sets for each column fits the column, whatever was offered
before, and a row that is refused leaves no trace. The statement of the accepted rows can always be
rendered, and its columns and cells depend on nothing but these last cells.
-/

namespace SeriesSql

namespace InsertBuilder

/-- The cells that a caller sets for one row, in order. A later cell of a column replaces an
earlier one. -/
abbrev Offer := List (String × InsertCell)

def offer (b : InsertBuilder) (cells : Offer) : InsertBuilder :=
  (b.row (.ofList cells)).toOption.getD b

def offerAll (b : InsertBuilder) (offers : List Offer) : InsertBuilder :=
  offers.foldl offer b

/-- A cell that fits a column of a table: SQL text, or a value that has a literal of the column's type
and is no null for the designated timestamp. -/
def CellFits (table : Table) (name : String) : InsertCell → Prop
  | .raw _ => ∃ column, table.column? name = some column
  | .value v =>
    ∃ column, table.column? name = some column ∧ ¬ (v = .null ∧ table.timestamp? = some name) ∧
      ∃ text, Literal.ofValue v column.type = .ok text

/-- A row that sets a cell, and for each column a last cell that fits. -/
def RowFits (table : Table) (cells : Offer) : Prop :=
  cells ≠ [] ∧ ∀ name cell, Keyed.last? name cells = some cell → CellFits table name cell

/-- The offers that a builder accepts one after the other. -/
def accepted (b : InsertBuilder) : List Offer → List Offer
  | [] => []
  | cells :: offers =>
    match b.row (.ofList cells) with
    | .ok next => cells :: accepted next offers
    | .error _ => accepted b offers

/-- What a missing cell of a type is stored as. -/
def missing : ColumnType → InsertCell
  | .boolean => .value (.bool false)
  | .byte | .short => .value (.int 0)
  | _ => .value .null

/-- The cell of an accepted row in a column of a table. -/
def stored (table : Table) (cells : Offer) (name : String) (type : ColumnType) : InsertCell :=
  match Keyed.last? name cells with
  | none => if table.timestamp? = some name then .raw "now()" else missing type
  | some (.value .null) => missing type
  | some cell => cell

/-- Whether the statement of rows of a table has a column. -/
def Listed (table : Table) (rows : List Offer) (name : String) : Prop :=
  table.timestamp? = some name ∨ ∃ cells ∈ rows, name ∈ cells.map Prod.fst

instance (table : Table) (rows : List Offer) (name : String) :
    Decidable (Listed table rows name) :=
  inferInstanceAs (Decidable (_ ∨ _))

/-- The columns of a table that the statement of rows has, in the order of the table. -/
def listed (table : Table) (rows : List Offer) : List (String × Column) :=
  table.columns.entries.filter fun entry => Listed table rows entry.1

def statement (table : Table) (rows : List Offer) : Insert :=
  { table := table.name
    columns := (listed table rows).map Prod.fst
    types := (listed table rows).map fun entry => entry.2.type
    rows := rows.map fun cells =>
      (listed table rows).map fun entry => stored table cells entry.1 entry.2.type }

/-- Two offers that set the same cells for each column in the same order, whatever the order of the
columns. -/
def SameCells (cells cells' : Offer) : Prop :=
  ∀ name, (cells.filter fun pair => pair.1 = name) = cells'.filter fun pair => pair.1 = name

/-! ### Accepting rows -/

theorem row_eq_ok_iff {b next : InsertBuilder} {row : Keyed InsertCell} :
    b.row row = .ok next ↔
      checkRow b.table row = .ok () ∧ next = { b with rows := b.rows ++ [row] } := by
  rw [InsertBuilder.row]
  cases checkRow b.table row with
  | error e => simp [bind, Except.bind]
  | ok _ =>
    simp only [bind, Except.bind, pure, Except.pure, Except.ok.injEq, true_and]
    exact eq_comm

theorem offerAll_rows (b : InsertBuilder) (offers : List Offer) :
    b.offerAll offers =
      { b with rows := b.rows ++ (b.accepted offers).map Keyed.ofList } := by
  induction offers generalizing b with
  | nil => simp [offerAll, accepted]
  | cons cells offers ih =>
    rw [offerAll, List.foldl_cons, ← offerAll, ih, accepted, offer]
    cases hrow : b.row (.ofList cells) with
    | error e => simp [Except.toOption]
    | ok next =>
      rw [(row_eq_ok_iff.1 hrow).2]
      simp [Except.toOption]

theorem CellFits.exists_column {table : Table} {name : String} {cell : InsertCell}
    (h : CellFits table name cell) : ∃ column, table.column? name = some column := by
  cases cell with
  | raw sql => exact h
  | value v =>
    obtain ⟨column, hcolumn, -⟩ := h
    exact ⟨column, hcolumn⟩

theorem checkCell_unknown {table : Table} {name : String} (hcolumn : table.column? name = none)
    (cell : InsertCell) :
    checkCell table name cell = .error (.validation (.unknownColumn table.name name)) := by
  unfold checkCell
  rw [hcolumn]

theorem checkCell_value {table : Table} {name : String} {column : Column}
    (hcolumn : table.column? name = some column) (v : Value) :
    checkCell table name (.value v) =
      (refuseIf (v.isNull && table.timestamp? == some name) (.nullTimestamp table.name name) >>=
        fun _ => discard (Literal.ofValue v column.type)) := by
  unfold checkCell
  rw [hcolumn]

theorem checkCell_eq_ok_iff {table : Table} {name : String} {cell : InsertCell} :
    checkCell table name cell = .ok () ↔ CellFits table name cell := by
  cases hcolumn : table.column? name with
  | none =>
    rw [checkCell_unknown hcolumn]
    refine ⟨nofun, fun hfits => ?_⟩
    obtain ⟨column, hknown⟩ := hfits.exists_column
    cases hcolumn.symm.trans hknown
  | some column =>
    cases cell with
    | raw sql =>
      unfold checkCell
      rw [hcolumn]
      exact ⟨fun _ => ⟨column, hcolumn⟩, fun _ => rfl⟩
    | value v =>
      have hnull : (v.isNull && table.timestamp? == some name) = false ↔
          ¬ (v = .null ∧ table.timestamp? = some name) := by
        cases v <;> simp [Value.isNull]
      rw [checkCell_value hcolumn, Check.and_then_eq_ok_iff, Check.refuseIf_eq_ok_iff, hnull,
        Check.discard_eq_ok_iff]
      constructor
      · exact fun hfits => ⟨column, hcolumn, hfits⟩
      · rintro ⟨_, hsame, hfits⟩
        obtain rfl := Option.some.inj (hcolumn.symm.trans hsame)
        exact hfits

theorem checkRow_eq_ok_iff {table : Table} {cells : Offer} :
    checkRow table (.ofList cells) = .ok () ↔ RowFits table cells := by
  have hempty : (Keyed.ofList cells).entries.isEmpty = false ↔ cells ≠ [] := by
    have hnames : (Keyed.ofList cells).names = [] ↔ cells.map Prod.fst = [] := by
      simp only [List.eq_nil_iff_forall_not_mem, Keyed.mem_names_ofList]
    rw [Bool.eq_false_iff, ne_eq, List.isEmpty_iff, ← List.map_eq_nil_iff (f := Prod.fst),
      ← Keyed.names, hnames, List.map_eq_nil_iff]
  have hcells : ((Keyed.ofList cells).entries.forM fun entry => checkCell table entry.1 entry.2) =
      .ok () ↔ ∀ name cell, Keyed.last? name cells = some cell → CellFits table name cell := by
    rw [Check.forM_eq_ok_iff, Prod.forall]
    simp only [← Keyed.get?_eq_some_iff, Keyed.get?_ofList, checkCell_eq_ok_iff]
  rw [RowFits, ← hempty, ← hcells]
  change (refuseIf (Keyed.ofList cells).entries.isEmpty _ >>= fun _ =>
    (Keyed.ofList cells).entries.forM fun entry => checkCell table entry.1 entry.2) = _ ↔ _
  rw [Check.and_then_eq_ok_iff, Check.refuseIf_eq_ok_iff]

theorem isOk_checkRow_iff {table : Table} {cells : Offer} :
    (checkRow table (.ofList cells)).isOk ↔ RowFits table cells := by
  rw [Check.isOk_iff, ← checkRow_eq_ok_iff]
  exact ⟨fun ⟨(), h⟩ => h, fun h => ⟨(), h⟩⟩

instance (table : Table) (cells : Offer) : Decidable (RowFits table cells) :=
  decidable_of_iff _ isOk_checkRow_iff

theorem exists_row_eq_ok_iff {b : InsertBuilder} {cells : Offer} :
    (∃ next, b.row (.ofList cells) = .ok next) ↔ RowFits b.table cells := by
  simp only [row_eq_ok_iff, exists_and_left, exists_eq, and_true, checkRow_eq_ok_iff]

/-- Whether a row is accepted depends on the table alone, not on the rows before it. -/
theorem accepted_eq_filter (b : InsertBuilder) (offers : List Offer) :
    b.accepted offers = offers.filter fun cells => RowFits b.table cells := by
  induction offers generalizing b with
  | nil => rfl
  | cons cells offers ih =>
    rw [accepted]
    cases hrow : b.row (.ofList cells) with
    | error e =>
      have hfits : ¬ RowFits b.table cells := by
        intro hfits
        obtain ⟨next, hnext⟩ := exists_row_eq_ok_iff.2 hfits
        cases hrow.symm.trans hnext
      rw [List.filter_cons_of_neg (by simpa using hfits)]
      simp only [ih]
    | ok next =>
      have hfits : RowFits b.table cells := exists_row_eq_ok_iff.1 ⟨next, hrow⟩
      rw [List.filter_cons_of_pos (by simpa using hfits), (row_eq_ok_iff.1 hrow).2]
      simp only [ih]

theorem rowFits_of_accepted {b : InsertBuilder} {offers : List Offer} {cells : Offer}
    (h : cells ∈ b.accepted offers) : RowFits b.table cells := by
  rw [accepted_eq_filter] at h
  exact of_decide_eq_true (List.mem_filter.1 h).2

/-! ### The statement of accepted rows -/

theorem lists_eq {b : InsertBuilder} {rows : List Offer} (hrows : b.rows = rows.map Keyed.ofList)
    (name : String) : b.lists name = decide (Listed b.table rows name) := by
  rw [Bool.eq_iff_iff, decide_eq_true_eq, lists, Bool.or_eq_true, beq_iff_eq, hrows, List.any_map,
    List.any_eq_true, Listed]
  simp only [Function.comp_apply, Keyed.contains_iff_mem_names, Keyed.mem_names_ofList]

theorem missing_eq (type : ColumnType) :
    missing type = if type.isNullable then .value .null else defaultCell type := by
  cases type <;> rfl

theorem cell_eq_stored (table : Table) (cells : Offer) (name : String) (column : Column) :
    cell table (.ofList cells) name column = stored table cells name column.type := by
  rw [cell, stored, Keyed.get?_ofList, missing_eq]
  cases Keyed.last? name cells with
  | none => simp only [beq_iff_eq]
  | some c =>
    cases c with
    | raw sql => rfl
    | value v => cases v <;> rfl

/-- The statement depends on the last cells of the accepted rows alone. -/
theorem node_eq_statement {b : InsertBuilder} {rows : List Offer}
    (hrows : b.rows = rows.map Keyed.ofList) : b.node = statement b.table rows := by
  have hlisted : (b.table.columns.entries.filter fun entry => b.lists entry.1) =
      listed b.table rows := by
    rw [listed]
    simp only [lists_eq hrows]
  rw [node, hlisted, hrows, List.map_map, statement]
  simp only [Function.comp_def, cell_eq_stored]

theorem column?_of_mem_listed {table : Table} {rows : List Offer} {entry : String × Column}
    (h : entry ∈ listed table rows) : table.column? entry.1 = some entry.2 := by
  rw [Table.column?, Keyed.get?_eq_some_iff]
  exact (List.mem_filter.1 h).1

/-- A missing cell has a literal. -/
theorem missing_hasLiteral (type : ColumnType) :
    ∃ v text, missing type = .value v ∧ Literal.ofValue v type = .ok text := by
  cases type
  case boolean => exact ⟨.bool false, "false", rfl, rfl⟩
  case byte => exact ⟨.int 0, "0", rfl, rfl⟩
  case short => exact ⟨.int 0, "0", rfl, rfl⟩
  all_goals exact ⟨.null, "NULL", rfl, rfl⟩

theorem succeeds_write_value {type : ColumnType} {v : Value} {text : String}
    (h : Literal.ofValue v type = .ok text) : Writer.Succeeds (InsertCell.write type (.value v)) :=
  ⟨text, Writer.emits_emitResult_iff.2 h⟩

/-- Every cell of an accepted row can be written. -/
theorem succeeds_write_stored {table : Table} {cells : Offer} {name : String} {column : Column}
    (hcells : RowFits table cells) (hcolumn : table.column? name = some column) :
    Writer.Succeeds (InsertCell.write column.type (stored table cells name column.type)) := by
  have hmissing : Writer.Succeeds (InsertCell.write column.type (missing column.type)) := by
    obtain ⟨v, text, hv, htext⟩ := missing_hasLiteral column.type
    rw [hv]
    exact succeeds_write_value htext
  rw [stored]
  split
  · split
    · exact ⟨"now()", Writer.emits_emit "now()"⟩
    · exact hmissing
  · exact hmissing
  · rename_i cell _ hcell
    have hfits := hcells.2 name cell hcell
    cases cell with
    | raw sql => exact ⟨sql, Writer.emits_emit sql⟩
    | value v =>
      obtain ⟨_, hsame, -, text, htext⟩ := hfits
      obtain rfl := Option.some.inj (hcolumn.symm.trans hsame)
      exact succeeds_write_value htext

theorem listed_ne_nil {table : Table} {cells : Offer} {rows : List Offer} (hmem : cells ∈ rows)
    (hcells : RowFits table cells) : listed table rows ≠ [] := by
  obtain ⟨hne, hfits⟩ := hcells
  obtain ⟨⟨name, first⟩, rest, rfl⟩ := List.exists_cons_of_ne_nil hne
  have hset : name ∈ ((name, first) :: rest).map Prod.fst := List.mem_cons_self
  obtain ⟨cell, hcell⟩ := Option.isSome_iff_exists.1 (Keyed.last?_isSome_iff.2 hset)
  obtain ⟨column, hcolumn⟩ := (hfits name cell hcell).exists_column
  rw [Table.column?, Keyed.get?_eq_some_iff] at hcolumn
  have hlisted : Listed table rows name := Or.inr ⟨_, hmem, hset⟩
  exact List.ne_nil_of_mem (List.mem_filter.2 ⟨hcolumn, decide_eq_true hlisted⟩)

/-- The statement of some right rows can be written. -/
theorem succeeds_write_statement {table : Table} {rows : List Offer} (hne : rows ≠ [])
    (hrows : ∀ cells ∈ rows, RowFits table cells) :
    Writer.Succeeds (statement table rows).write := by
  obtain ⟨first, rest, hfirst⟩ := List.exists_cons_of_ne_nil hne
  have hmem : first ∈ rows := hfirst ▸ List.mem_cons_self
  rw [Insert.succeeds_write_iff]
  constructor
  · have hcolumns := listed_ne_nil hmem (hrows first hmem)
    have hwidth : ((statement table rows).rows.find? fun row =>
        row.length ≠ (statement table rows).columns.length) = none := by
      rw [List.find?_eq_none]
      intro row hrow
      obtain ⟨cells, -, rfl⟩ := List.mem_map.1 hrow
      simp [statement]
    rw [Insert.check, hwidth]
    simp [statement, hne, hcolumns, refuseIf, bind, Except.bind, pure, Except.pure]
  · intro row hrow entry hentry
    obtain ⟨cells, hcells, rfl⟩ := List.mem_map.1 hrow
    rw [statement, List.zip_map'] at hentry
    obtain ⟨⟨name, column⟩, hlisted, rfl⟩ := List.mem_map.1 hentry
    exact succeeds_write_stored (hrows cells hcells) (column?_of_mem_listed hlisted)

theorem toSql_eq_ok_iff (b : InsertBuilder) :
    (∃ sql, b.toSql = .ok sql) ↔ Writer.Succeeds b.node.write :=
  exists_congr fun _ => Writer.toSql_eq_ok_iff

theorem not_succeeds_statement_nil (table : Table) :
    ¬ Writer.Succeeds (statement table []).write := by
  rw [Insert.succeeds_write_iff]
  rintro ⟨hcheck, -⟩
  cases hcheck

/-! ### The order of cells -/

theorem SameCells.last?_eq {cells cells' : Offer} (h : SameCells cells cells') (name : String) :
    Keyed.last? name cells = Keyed.last? name cells' := by
  rw [Keyed.last?, h name, Keyed.last?]

theorem SameCells.mem_iff {cells cells' : Offer} (h : SameCells cells cells') (name : String) :
    name ∈ cells.map Prod.fst ↔ name ∈ cells'.map Prod.fst := by
  rw [← Keyed.last?_isSome_iff, ← Keyed.last?_isSome_iff, h.last?_eq]

theorem SameCells.rowFits_iff {cells cells' : Offer} (h : SameCells cells cells')
    (table : Table) : RowFits table cells ↔ RowFits table cells' := by
  have hne : ∀ cells : Offer, cells ≠ [] ↔ ∃ name, name ∈ cells.map Prod.fst := by
    intro cells
    cases cells <;> simp
  simp only [RowFits, hne, h.mem_iff, h.last?_eq]

theorem accepted_sameCells {b : InsertBuilder} {offers offers' : List Offer}
    (h : List.Forall₂ SameCells offers offers') :
    List.Forall₂ SameCells (b.accepted offers) (b.accepted offers') := by
  rw [accepted_eq_filter, accepted_eq_filter]
  induction h with
  | nil => exact .nil
  | @cons cells cells' offers offers' hcells _ ih =>
    have hfits : decide (RowFits b.table cells) = decide (RowFits b.table cells') :=
      decide_eq_decide.2 (hcells.rowFits_iff b.table)
    rw [List.filter_cons, List.filter_cons, hfits]
    split
    · exact .cons hcells ih
    · exact ih

theorem statement_sameCells {table : Table} {rows rows' : List Offer}
    (h : List.Forall₂ SameCells rows rows') : statement table rows = statement table rows' := by
  have hlisted : listed table rows = listed table rows' := by
    have hset : ∀ name, (∃ cells ∈ rows, name ∈ cells.map Prod.fst) ↔
        ∃ cells ∈ rows', name ∈ cells.map Prod.fst := by
      intro name
      induction h with
      | nil => rfl
      | cons hcells _ ih => simp only [List.exists_mem_cons_iff, hcells.mem_iff, ih]
    apply List.filter_congr
    intro entry _
    rw [decide_eq_decide, Listed, Listed, hset]
  rw [statement, statement, hlisted]
  congr 1
  clear hlisted
  generalize listed table rows' = columns
  induction h with
  | nil => rfl
  | cons hcells _ ih =>
    rw [List.map_cons, List.map_cons, ih]
    simp only [stored, hcells.last?_eq]

/-! ### The run of a builder -/

/-- What becomes of rows that are offered one after the other. A row is accepted exactly if it fits
the table. A refused row changes nothing, and the statement can be rendered as soon as one row was
accepted. It has the columns that some accepted row sets, and the timestamp; each accepted row has
in it the last cell that it sets for a column, or what stands for a missing one. The order in which
rows set their columns does not matter. -/
theorem offerAll_spec (table : Table) (offers : List Offer) :
    let b := (ofTable table).offerAll offers
    let rows := (ofTable table).accepted offers
    let columns := table.columns.entries.filter fun entry => Listed table rows entry.1
    (∀ cells, (∃ next, b.row (.ofList cells) = .ok next) ↔ RowFits table cells) ∧
      rows = offers.filter (fun cells => RowFits table cells) ∧
      b.rows = rows.map Keyed.ofList ∧
      (∀ cells e, b.row (.ofList cells) = .error e → b.offer cells = b) ∧
      ((∃ sql, b.toSql = .ok sql) ↔ rows ≠ []) ∧
      b.node.columns = columns.map Prod.fst ∧
      b.node.rows = rows.map (fun cells => columns.map fun entry =>
        stored table cells entry.1 entry.2.type) ∧
      ∀ offers', List.Forall₂ SameCells offers offers' →
        ((ofTable table).offerAll offers').node = b.node := by
  intro b rows columns
  have hb : b = { ofTable table with rows := rows.map Keyed.ofList } :=
    offerAll_rows (ofTable table) offers
  have hnode : ∀ offers, ((ofTable table).offerAll offers).node =
      statement table ((ofTable table).accepted offers) := by
    intro offers
    rw [offerAll_rows]
    exact node_eq_statement rfl
  refine ⟨?_, accepted_eq_filter (ofTable table) offers, ?_, ?_, ?_, ?_, ?_, ?_⟩
  · intro cells
    rw [exists_row_eq_ok_iff, hb]
    rfl
  · rw [hb]
  · intro cells e hrow
    rw [offer, hrow]
    rfl
  · rw [toSql_eq_ok_iff, hnode offers]
    constructor
    · intro hsucceeds hnil
      change rows = [] at hnil
      exact not_succeeds_statement_nil table (hnil ▸ hsucceeds)
    · exact fun hne => succeeds_write_statement hne fun cells hcells => rowFits_of_accepted hcells
  · rw [hnode offers]
    rfl
  · rw [hnode offers]
    rfl
  · intro offers' hsame
    rw [hnode offers, hnode offers', statement_sameCells (accepted_sameCells hsame)]

/-- A row with a null for the timestamp is refused, and the row after it gets the current time. -/
theorem offerAll_spec_refused :
    let table : Table :=
      { TableSettings.default with
        name := "readings"
        columns := .ofList [("ts", { Column.ofType .timestamp with designated := true }),
          ("ok", .ofType .boolean), ("kwh", .ofType .double)] }
    let refused : Offer := [("kwh", .value (.int 1)), ("ts", .value .null)]
    let taken : Offer := [("kwh", .value (.int 2)), ("ok", .value .null), ("kwh", .value (.int 3))]
    let b := (ofTable table).offerAll [refused, taken]
    ¬ RowFits table refused ∧ RowFits table taken ∧ (∃ sql, b.toSql = .ok sql) ∧
      b.node.columns = ["ts", "ok", "kwh"] ∧
      b.node.rows = [[.raw "now()", .value (.bool false), .value (.int 3)]] := by
  intro table refused taken b
  have hrefused : ¬ RowFits table refused := by decide
  have htaken : RowFits table taken := by decide
  obtain ⟨-, hrows, -, -, hsql, hcolumns, hcells, -⟩ := offerAll_spec table [refused, taken]
  have haccepted : (ofTable table).accepted [refused, taken] = [taken] := by
    rw [hrows, List.filter_cons_of_neg (by simpa using hrefused),
      List.filter_cons_of_pos (by simpa using htaken), List.filter_nil]
  have hlisted : (table.columns.entries.filter fun entry => Listed table [taken] entry.1) =
      table.columns.entries := by decide
  rw [haccepted] at hsql hcolumns hcells
  rw [hlisted] at hcolumns hcells
  exact ⟨hrefused, htaken, hsql.2 (List.cons_ne_nil _ _), hcolumns, hcells⟩

end InsertBuilder
end SeriesSql
