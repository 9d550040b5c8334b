import SeriesSql.Sql.Render

/-!
# Inserts and updates

The structure and the text of the two statements that change rows.
-/

namespace SeriesSql

open Writer

/-- A cell of an inserted row: a value, or SQL that is written as it is. -/
inductive InsertCell where
  | value (v : Value)
  | raw (sql : String)

/-- An insert statement. Every row has one cell for each column. -/
structure Insert where
  table : String
  columns : List String
  types : List ColumnType
  rows : List (List InsertCell)

structure Assignment where
  column : String
  expr : Expr

/-- An update statement, which may read values from a second source. -/
structure Update where
  table : String
  assignments : List Assignment
  source : Option Source
  condition : Option Expr

def InsertCell.write (type : ColumnType) : InsertCell → Writer Unit
  | .value v => emitResult (Literal.ofValue v type)
  | .raw sql => emit sql

namespace Insert

/-- Refuses an insert without rows or columns, or one in which their numbers differ. -/
def check (insert : Insert) : Except SqlError Unit := do
  let width := insert.columns.length
  refuseIf insert.rows.isEmpty (.insertNoRows insert.table)
  refuseIf insert.columns.isEmpty (.insertNoColumns insert.table)
  refuseIf (width ≠ insert.types.length) (.insertTypeCount insert.table width insert.types.length)
  match insert.rows.find? fun row => row.length ≠ width with
  | some row => throw (.validation (.insertRowLength insert.table width row.length))
  | none => pure ()

/-- Writes one row on a line of its own. -/
def writeRow (types : List ColumnType) (row : List InsertCell) : Writer Unit := do
  emit "\n("
  separated ", " (fun (cell, type) => InsertCell.write type cell) (row.zip types)
  emit ")"

def write (insert : Insert) : Writer Unit := do
  require insert.check
  emit s!"INSERT INTO {Token.name insert.table} ({Token.names insert.columns}) VALUES"
  separated "," (writeRow insert.types) insert.rows

end Insert

def Assignment.write (assignment : Assignment) : Writer Unit := do
  emit (Token.name assignment.column ++ " = ")
  assignment.expr.write

def Update.write (update : Update) : Writer Unit := do
  require (refuseIf update.assignments.isEmpty (.updateNoAssignments update.table))
  emit s!"UPDATE {Token.name update.table}\nSET "
  separated ", " Assignment.write update.assignments
  emitClause "\nFROM " update.source Source.write
  Expr.writeOptional "\nWHERE " update.condition

end SeriesSql
