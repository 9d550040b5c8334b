import SeriesSql.Schema.Table
import SeriesSql.Sql.Change
import SeriesSql.Transport

/-!
# Building inserts

Rows are collected for one insert into a table. A row is checked when it is added, so that the
statement of the rows that were taken never fails. The statement has the columns that some row sets
and the designated timestamp, in the order of the table.
-/

namespace SeriesSql

/-- The rows collected for a table. -/
structure InsertBuilder where
  table : Table
  rows : List (Keyed InsertCell)

namespace InsertBuilder

def ofTable (table : Table) : InsertBuilder :=
  ⟨table, []⟩

def isEmpty (b : InsertBuilder) : Bool :=
  b.rows.isEmpty

/-- Refuses a cell of an unknown column, a null for the designated timestamp, and a value that has
no literal of its column's type. -/
def checkCell (table : Table) (name : String) (cell : InsertCell) : Except SqlError Unit :=
  match table.column? name, cell with
  | none, _ => .error (.validation (.unknownColumn table.name name))
  | some _, .raw _ => .ok ()
  | some column, .value v => do
    refuseIf (v.isNull && table.timestamp? == some name) (.nullTimestamp table.name name)
    discard (Literal.ofValue v column.type)

/-- Refuses a row without cells, or with a cell that is refused. -/
def checkRow (table : Table) (row : Keyed InsertCell) : Except SqlError Unit := do
  refuseIf row.entries.isEmpty (.emptyRow table.name)
  row.entries.forM fun (name, cell) => checkCell table name cell

def row (b : InsertBuilder) (row : Keyed InsertCell) : Except SqlError InsertBuilder := do
  checkRow b.table row
  return { b with rows := b.rows ++ [row] }

/-- What a column that stores no null shows for a missing value. -/
def defaultCell (type : ColumnType) : InsertCell :=
  match type with
  | .boolean => .value (.bool false)
  | _ => .value (.int 0)

/-- Whether the statement has a column of the table. -/
def lists (b : InsertBuilder) (name : String) : Bool :=
  b.table.timestamp? == some name || b.rows.any (·.contains name)

/-- The cell of a row in a column. A missing timestamp is the current time, and any other missing
cell a null or what stands for it. -/
def cell (table : Table) (row : Keyed InsertCell) (name : String) (column : Column) : InsertCell :=
  match row.get? name with
  | none =>
    if table.timestamp? == some name then .raw "now()"
    else if column.type.isNullable then .value .null
    else defaultCell column.type
  | some (.value .null) =>
    if column.type.isNullable then .value .null else defaultCell column.type
  | some cell => cell

/-- The statement that inserts the rows. -/
def node (b : InsertBuilder) : Insert :=
  let listed := b.table.columns.entries.filter fun entry => b.lists entry.1
  { table := b.table.name
    columns := listed.map Prod.fst
    types := listed.map fun entry => entry.2.type
    rows := b.rows.map fun row => listed.map fun (name, column) => cell b.table row name column }

def toSql (b : InsertBuilder) : Except SqlError String :=
  b.node.write.toSql

def execute (b : InsertBuilder) : Session Response :=
  Session.sendRendered b.toSql

end InsertBuilder
end SeriesSql
