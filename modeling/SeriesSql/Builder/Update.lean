import SeriesSql.Sql.Change
import SeriesSql.Sql.ColumnRef
import SeriesSql.Transport

/-!
# Building updates

Assignments and conditions are collected for one update of a table, which may read from a second
table. The updated table's columns are qualified from the moment that the second table is given.
-/

namespace SeriesSql

structure UpdateBuilder where
  table : Table
  node : Update
  sourceColumns : Option SourceColumns

namespace UpdateBuilder

def ofTable (table : Table) : UpdateBuilder :=
  { table
    node := { table := table.name, assignments := [], source := none, condition := none }
    sourceColumns := none }

/-- The column with a name, if it may be set. -/
def assignable (b : UpdateBuilder) (name : String) : Except SqlError Column :=
  match b.table.column? name with
  | none => .error (.validation (.unknownColumn b.table.name name))
  | some column =>
    if column.designated then .error (.validation (.timestampUpdate b.table.name name))
    else .ok column

def assign (b : UpdateBuilder) (name : String) (expr : Expr) : UpdateBuilder :=
  { b with node := { b.node with assignments := b.node.assignments ++ [⟨name, expr⟩] } }

/-- Sets a column to a value, which must have a literal of the column's type. -/
def set (b : UpdateBuilder) (name : String) (value : Value) : Except SqlError UpdateBuilder := do
  let column ← b.assignable name
  discard (Literal.ofValue value column.type)
  return b.assign name (.literal value column.type)

def setExpr (b : UpdateBuilder) (name : String) (expr : Expr) : Except SqlError UpdateBuilder := do
  discard (b.assignable name)
  return b.assign name expr

/-- Reads from a second table under a label. -/
def readFrom (b : UpdateBuilder) (source : Table) (label : String) : UpdateBuilder :=
  { b with
    node := { b.node with source := some (.table source.name (some label)) }
    sourceColumns := some ⟨some source, some label⟩ }

/-- Updates only the rows that meet a further condition. -/
def filter (b : UpdateBuilder) (condition : Expr) : UpdateBuilder :=
  { b with node := { b.node with condition := some (Expr.conjoin b.node.condition condition) } }

def columns (b : UpdateBuilder) : SourceColumns :=
  ⟨some b.table, if b.sourceColumns.isSome then some b.table.name else none⟩

def column (b : UpdateBuilder) (name : String) : ColumnRef :=
  b.columns.column name

def toSql (b : UpdateBuilder) : Except SqlError String :=
  b.node.write.toSql

def execute (b : UpdateBuilder) : Session Response :=
  Session.sendRendered b.toSql

end UpdateBuilder
end SeriesSql
