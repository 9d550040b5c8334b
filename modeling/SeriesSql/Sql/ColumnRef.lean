import SeriesSql.Schema.Table
import SeriesSql.Sql.Select

/-!
# Columns in expressions

A reference to a column builds the comparisons with it. The literals of a comparison have the type
that the table declares for the column, or the type that each value suggests.
-/

namespace SeriesSql

/-- A column as a statement sees it. -/
structure ColumnRef where
  name : String
  qualifier : Option String
  declared : Option ColumnType
deriving DecidableEq, Repr

namespace ColumnRef

def reference (column : ColumnRef) : Expr :=
  .column column.qualifier column.name

/-- The literal of a value that is compared with the column. -/
def literal (column : ColumnRef) (value : Value) : Expr :=
  .literal value (column.declared.getD value.inferredType)

def compareTo (column : ColumnRef) (op : BinaryOp) (other : Expr) : Expr :=
  .binary op column.reference other

def compare (column : ColumnRef) (op : BinaryOp) (value : Value) : Expr :=
  column.compareTo op (column.literal value)

def isNull (column : ColumnRef) (negated : Bool) : Expr :=
  .isNull column.reference negated

/-- Equality with a value. Null is tested for. -/
def eq (column : ColumnRef) (value : Value) : Expr :=
  if value.isNull then column.isNull false else column.compare .eq value

def ne (column : ColumnRef) (value : Value) : Expr :=
  if value.isNull then column.isNull true else column.compare .neq value

/-- The column beside a pattern, which is a text whatever the column's type is. -/
def pattern (column : ColumnRef) (op : BinaryOp) (text : String) : Expr :=
  column.compareTo op (.literal (.text text) .varchar)

/-- A range test that includes both bounds. -/
def between (column : ColumnRef) (low high : Value) : Expr :=
  .between column.reference (column.literal low) (column.literal high)

def inList (column : ColumnRef) (values : List Value) : Expr :=
  .inList column.reference (values.map column.literal)

def within (column : ColumnRef) (interval : String) : Expr :=
  .inInterval column.reference interval

end ColumnRef

/-- The columns of one source of a statement. -/
structure SourceColumns where
  table : Option Table
  qualifier : Option String

/-- A column of the source. The type of a column that the table does not declare is unknown. -/
def SourceColumns.column (columns : SourceColumns) (name : String) : ColumnRef :=
  { name
    qualifier := columns.qualifier
    declared := (columns.table.bind (·.column? name)).map Column.type }

end SeriesSql
