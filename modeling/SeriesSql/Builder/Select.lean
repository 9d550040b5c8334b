import SeriesSql.Sql.ColumnRef
import SeriesSql.Sql.Render
import SeriesSql.Transport

/-!
# Building selects

A select is built step by step from its source. When the source is a table, its columns have their
declared types. Columns are bare as long as the source has no label and nothing is joined to it; the
first join qualifies those that came before it.
-/

namespace SeriesSql

/-- A select under construction, and the table it selects from when that is known. -/
structure SelectBuilder where
  node : Select
  table : Option Table

namespace SelectBuilder

def ofTable (table : Table) : SelectBuilder :=
  ⟨.ofSource (.table table.name none), some table⟩

def ofLabelledTable (table : Table) (label : String) : SelectBuilder :=
  ⟨.ofSource (.table table.name (some label)), some table⟩

/-- Selects from a table of which only the name is known. -/
def ofName (name : String) : SelectBuilder :=
  ⟨.ofSource (.table name none), none⟩

def ofSelect (inner : SelectBuilder) (label : String) : SelectBuilder :=
  ⟨.ofSource (.select inner.node label), none⟩

/-- Whether columns need the name of the source. -/
def isQualified (b : SelectBuilder) : Bool :=
  b.node.source.label?.isSome || !b.node.joins.isEmpty

/-- The columns of the source, qualified if they need to be. -/
def columns (b : SelectBuilder) : SourceColumns :=
  ⟨b.table, if b.isQualified then some b.node.source.qualifier else none⟩

def column (b : SelectBuilder) (name : String) : ColumnRef :=
  b.columns.column name

def toSql (b : SelectBuilder) : Except SqlError String :=
  b.node.write.toSql

def distinct (b : SelectBuilder) : SelectBuilder :=
  { b with node := { b.node with distinct := true } }

def project (b : SelectBuilder) (expr : Expr) (label : Option String) : SelectBuilder :=
  { b with node := { b.node with projections := b.node.projections ++ [⟨expr, label⟩] } }

def projectColumn (b : SelectBuilder) (name : String) (label : Option String) : SelectBuilder :=
  b.project (b.column name).reference label

def projectColumns (b : SelectBuilder) (names : List String) : SelectBuilder :=
  names.foldl (fun b name => b.projectColumn name none) b

/-- Keeps the rows that meet a condition, which replaces the one there was. -/
def filter (b : SelectBuilder) (condition : Expr) : SelectBuilder :=
  { b with node := { b.node with condition := some condition } }

def andFilter (b : SelectBuilder) (condition : Expr) : SelectBuilder :=
  b.filter (Expr.conjoin b.node.condition condition)

def orderBy (b : SelectBuilder) (expr : Expr) (direction : Direction) : SelectBuilder :=
  { b with node := { b.node with orderBy := b.node.orderBy ++ [⟨expr, direction⟩] } }

def orderByColumn (b : SelectBuilder) (name : String) (direction : Direction) : SelectBuilder :=
  b.orderBy (b.column name).reference direction

def limit (b : SelectBuilder) (count : Int) (offset : Option Int) : SelectBuilder :=
  { b with node := { b.node with limit := some ⟨count, offset⟩ } }

def groupBy (b : SelectBuilder) (expr : Expr) : SelectBuilder :=
  { b with node := { b.node with groupBy := b.node.groupBy ++ [expr] } }

def groupByColumns (b : SelectBuilder) (names : List String) : SelectBuilder :=
  names.foldl (fun b name => b.groupBy (b.column name).reference) b

def sampleBy (b : SelectBuilder) (sampleBy : SampleBy) : SelectBuilder :=
  { b with node := { b.node with sampleBy := some sampleBy } }

/-- Keeps the latest row for each combination of the columns. The source has to be a table with a
designated timestamp and these columns. -/
def latestOn (b : SelectBuilder) (keys : List String) : Except SqlError SelectBuilder :=
  match b.table with
  | none => .error (.validation .latestOnUnbound)
  | some table =>
    match table.timestamp? with
    | none => .error (.validation (.latestOnNoTimestamp table.name))
    | some timestamp => do
      refuseIf keys.isEmpty .latestOnNoKeys
      match keys.find? fun key => (table.column? key).isNone with
      | some key => throw (.validation (.latestOnUnknownKey table.name key))
      | none => return { b with node := { b.node with latestOn := some ⟨timestamp, keys⟩ } }

/-- Whether a bare column of this name belongs to the source. -/
def owns (b : SelectBuilder) (name : String) : Bool :=
  match b.table with
  | some table => (table.column? name).isSome
  | none => true

/-- The select with the columns that came before the first join qualified. -/
def qualified (b : SelectBuilder) : SelectBuilder :=
  if b.isQualified then b
  else { b with node := b.node.qualify b.node.source.qualifier b.owns }

/-- The columns of the source as the predicate of a join names them. -/
def leftColumns (b : SelectBuilder) : SourceColumns :=
  ⟨b.table, some b.node.source.qualifier⟩

/-- Joins a table under a label. The predicate is built from the columns of both sides. -/
def join (b : SelectBuilder) (kind : JoinKind) (right : Table) (label : String)
    (predicate : Option (SourceColumns → SourceColumns → Expr)) (tolerance : Option String) :
    SelectBuilder :=
  let built := predicate.map fun build => build b.leftColumns ⟨some right, some label⟩
  let join : Join := ⟨kind, .table right.name (some label), built, tolerance⟩
  let b := b.qualified
  { b with node := { b.node with joins := b.node.joins ++ [join] } }

/-- The select of the first row alone, after the same offset. -/
def firstOnly (b : SelectBuilder) : SelectBuilder :=
  b.limit 1 (b.node.limit.bind Limit.offset)

def execute (b : SelectBuilder) : Session (List Row) := do
  let response ← Session.sendRendered b.toSql
  Session.ofExcept response.decodeRows

def first (b : SelectBuilder) : Session (Option Row) := do
  let rows ← b.firstOnly.execute
  return rows.head?

end SelectBuilder
end SeriesSql
