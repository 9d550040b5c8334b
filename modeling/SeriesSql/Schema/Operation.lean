import SeriesSql.Schema.Table
import SeriesSql.Sql.Token

/-!
# Schema operations

The statements that create, change and remove a table. A change is checked against the table as it
is before it is rendered.
-/

namespace SeriesSql

inductive Alteration where
  | addColumn (name : String) (column : Column)
  | dropColumn (name : String)
  | renameColumn (old new : String)
  | setTtl (ttl : Ttl)
  | setMaxUncommittedRows (rows : Nat)
  | setMaxLag (lag : String)
  | partitions (action : PartitionAction) (names : List String)
  | squashPartitions
  | resumeWal (fromTxn : Option Nat)

inductive SchemaOp where
  | create (table : Table) (ifNotExists : Bool)
  | drop (table : Table) (ifExists : Bool)
  | truncate (table : Table)
  | alter (table : Table) (alteration : Alteration)

namespace Alteration

def check (table : Table) : Alteration → Except SqlError Unit
  | addColumn name column => do
    refuseIf column.designated (.addTimestamp table.name name)
    refuseIf (table.column? name).isSome (.columnExists table.name name)
    column.check name
  | dropColumn name => do
    refuseIf (table.timestamp? == some name) (.dropTimestamp table.name name)
    refuseIf (table.column? name).isNone (.columnMissing table.name name)
  | renameColumn old new => do
    refuseIf (table.column? old).isNone (.columnMissing table.name old)
    refuseIf (table.column? new).isSome (.columnExists table.name new)
  | setTtl ttl => do
    refuseIf (ttl.amount == 0) .ttlNotPositive
    refuseIf (!table.isPartitioned) (.ttlUnpartitioned table.name)
  | setMaxUncommittedRows _ => .ok ()
  | setMaxLag lag => Period.check .maxLag lag
  | partitions action names => do
    refuseIf names.isEmpty (.noPartitions action)
    refuseIf (!table.isPartitioned) (.notPartitioned table.name)
  | squashPartitions => .ok ()
  | resumeWal _ => refuseIf (table.wal == some false) (.walBypassed table.name)

/-- The change as it follows the name of the table. -/
def clause : Alteration → Except SqlError String
  | addColumn name column => column.ddlType.map fun type => s!"ADD COLUMN {Token.name name} {type}"
  | dropColumn name => .ok s!"DROP COLUMN {Token.name name}"
  | renameColumn old new => .ok s!"RENAME COLUMN {Token.name old} TO {Token.name new}"
  | setTtl ttl => .ok s!"SET TTL {ttl.toText}"
  | setMaxUncommittedRows rows => .ok s!"SET PARAM maxUncommittedRows = {rows}"
  | setMaxLag lag => .ok s!"SET PARAM o3MaxLag = {lag}"
  | partitions action names =>
    .ok (action.word ++ " PARTITION LIST " ++ ", ".intercalate (names.map Token.quoted))
  | squashPartitions => .ok "SQUASH PARTITIONS"
  | resumeWal none => .ok "RESUME WAL"
  | resumeWal (some txn) => .ok s!"RESUME WAL FROM TXN {txn}"

end Alteration

namespace Table

def columnDdl (entry : String × Column) : Except SqlError String :=
  entry.2.ddlType.map fun type => Token.name entry.1 ++ " " ++ type

/-- The settings of a table as they follow its columns. -/
def settingsDdl (table : Table) : String :=
  let timestamp := (table.timestamp?.map fun name => s!" timestamp({Token.name name})").getD ""
  let ttl := (table.ttl.map fun ttl => " TTL " ++ ttl.toText).getD ""
  let wal := (table.wal.map fun on => if on then " WAL" else " BYPASS WAL").getD ""
  let dedup :=
    if table.dedupKeys.isEmpty then "" else s!" DEDUP UPSERT KEYS({Token.names table.dedupKeys})"
  let parameters :=
    (table.maxUncommittedRows.map fun rows => s!"maxUncommittedRows={rows}").toList ++
      (table.maxLag.map fun lag => s!"o3MaxLag={lag}").toList
  let tuning := if parameters.isEmpty then "" else " WITH " ++ ", ".intercalate parameters
  timestamp ++ " PARTITION BY " ++ table.partitionBy.word ++ ttl ++ wal ++ dedup ++ tuning

end Table

def SchemaOp.toSql : SchemaOp → Except SqlError String
  | create table ifNotExists => do
    let columns ← table.columns.entries.mapM Table.columnDdl
    table.maxLag.forM (Period.check .maxLag)
    let condition := if ifNotExists then "IF NOT EXISTS " else ""
    let list := ", ".intercalate columns
    return s!"CREATE TABLE {condition}{Token.name table.name} ({list})" ++ table.settingsDdl
  | drop table ifExists =>
    let condition := if ifExists then "IF EXISTS " else ""
    .ok s!"DROP TABLE {condition}{Token.name table.name}"
  | truncate table => .ok s!"TRUNCATE TABLE {Token.name table.name}"
  | alter table alteration => do
    alteration.check table
    let clause ← alteration.clause
    return s!"ALTER TABLE {Token.name table.name} {clause}"

end SeriesSql
