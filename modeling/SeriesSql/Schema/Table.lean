import SeriesSql.Keyed
import SeriesSql.Schema.Column
import SeriesSql.Sql.Literal

/-!
# Tables

A table has a name, columns with distinct names in the order of their declaration, and settings of
how it is stored. `check` says whether the parts go together, and `declare` makes a table of them.
-/

namespace SeriesSql

structure Ttl where
  amount : Nat
  unit : TtlUnit
deriving DecidableEq, Repr

def Ttl.toText (ttl : Ttl) : String :=
  s!"{ttl.amount} {ttl.unit.word}"

/-- How a table is stored. `wal` is the write-ahead log: on, bypassed, or left to the engine. -/
structure TableSettings where
  partitionBy : PartitionBy
  wal : Option Bool
  dedupKeys : List String
  ttl : Option Ttl
  maxUncommittedRows : Option Nat
  maxLag : Option String
deriving DecidableEq, Repr

def TableSettings.default : TableSettings :=
  { partitionBy := .none
    wal := none
    dedupKeys := []
    ttl := none
    maxUncommittedRows := none
    maxLag := none }

structure Table extends TableSettings where
  name : String
  columns : Keyed Column

namespace Table

def column? (table : Table) (name : String) : Option Column :=
  table.columns.get? name

def timestamps (table : Table) : List String :=
  (table.columns.entries.filter fun entry => entry.2.designated).map Prod.fst

def timestamp? (table : Table) : Option String :=
  table.timestamps.head?

def isPartitioned (table : Table) : Bool :=
  table.partitionBy ≠ .none

/-- Refuses a deduplication key that is no column or was listed before. -/
def checkKeys (table : Table) : List String → List String → Except SqlError Unit
  | _, [] => .ok ()
  | before, key :: rest => do
    refuseIf (table.column? key).isNone (.dedupUnknown table.name key)
    refuseIf (before.contains key) (.dedupRepeated key)
    checkKeys table (key :: before) rest

/-- Refuses deduplication keys without the timestamp, or in a table without a write-ahead log. -/
def checkDedup (table : Table) : Except SqlError Unit :=
  if table.dedupKeys.isEmpty then .ok ()
  else do
    table.checkKeys [] table.dedupKeys
    refuseIf (!table.timestamp?.any table.dedupKeys.contains) (.dedupNoTimestamp table.name)
    refuseIf (table.wal == some false || !table.isPartitioned) (.dedupNoWal table.name)

/-- Refuses a table whose parts do not go together. The first broken rule counts. -/
def check (table : Table) : Except SqlError Unit := do
  refuseIf (table.name == "") .emptyTableName
  refuseIf table.columns.entries.isEmpty (.noColumns table.name)
  table.columns.entries.forM fun (name, column) => column.check name
  refuseIf (1 < table.timestamps.length) (.manyTimestamps table.name table.timestamps)
  refuseIf (table.isPartitioned && table.timestamps.isEmpty)
    (.partitionNoTimestamp table.name table.partitionBy)
  refuseIf (table.wal == some true && !table.isPartitioned) (.walUnpartitioned table.name)
  table.checkDedup
  match table.ttl with
  | none => pure ()
  | some ttl =>
    refuseIf (ttl.amount == 0) (.ttlZero table.name)
    refuseIf (!table.isPartitioned) (.ttlUnpartitioned table.name)
  table.maxLag.forM (Period.check .maxLag)

def addColumn (name : String) (columns : Keyed Column) (column : String × Column) :
    Except SqlError (Keyed Column) :=
  if columns.contains column.1 then .error (.validation (.repeatedColumn name column.1))
  else .ok (columns.insert column.1 column.2)

/-- The table of a name, columns and settings, unless a column is declared twice or the parts do not
go together. -/
def declare (name : String) (columns : List (String × Column)) (settings : TableSettings) :
    Except SqlError Table := do
  let columns ← columns.foldlM (addColumn name) Keyed.empty
  let table : Table := { settings with name, columns }
  table.check
  return table

end Table
end SeriesSql
