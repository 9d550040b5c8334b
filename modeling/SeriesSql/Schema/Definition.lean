import SeriesSql.Json.Record
import SeriesSql.Schema.Table

/-!
# Tables and columns as JSON

A table definition is a record whose columns are an object, in order of declaration. A column that
is declared twice keeps its first place and its last definition. A column is written back with all
its fields.
-/

namespace SeriesSql

def Document.asWord? : Document → Option Nat :=
  asNatBelow? UInt32.size

def ColumnType.ofDocument? (document : Document) : Option ColumnType :=
  document.asName? >>= ofKey?

def SymbolOptions.ofDocument? (document : Document) : Option SymbolOptions := do
  let fields ← document.asRecord? [["capacity"], ["cache"], ["index"], ["index_capacity"]]
  return {
    capacity := ← Document.optional? fields "capacity" Document.asWord?
    cache := ← Document.optional? fields "cache" Document.asBool?
    index := ← Document.withDefault? fields "index" Document.asBool? false
    indexCapacity := ← Document.optional? fields "index_capacity" Document.asWord? }

namespace Column

/-- The column of a type with the metadata that a document holds. -/
def ofMetadata? (type : ColumnType) (document : Document) : Option Column := do
  let fields ←
    document.asRecord? [["designated"], ["symbol"], ["geohash_bits"], ["array_element"]]
  return {
    type
    designated := ← Document.withDefault? fields "designated" Document.asBool? false
    symbol := ← Document.optional? fields "symbol" SymbolOptions.ofDocument?
    geohashBits := ← Document.optional? fields "geohash_bits" (Document.asNatBelow? UInt8.size)
    arrayElement := ← Document.optional? fields "array_element" ColumnType.ofDocument? }

def ofDocument? (document : Document) : Option Column := do
  let fields ← document.asRecord? [["type"], ["metadata"]]
  let type ← Document.required? fields "type" ColumnType.ofDocument?
  Document.withDefault? fields "metadata" (ofMetadata? type) (ofType type)

end Column

def Json.ofOption {α : Type} (toJson : α → Json) (value : Option α) : Json :=
  (value.map toJson).getD .null

def Json.ofNat (n : Nat) : Json :=
  .number (toString n)

def ColumnType.toJson (type : ColumnType) : Json :=
  .string type.key

def SymbolOptions.toJson (options : SymbolOptions) : Json :=
  .object [
    ("capacity", .ofOption .ofNat options.capacity),
    ("cache", .ofOption .bool options.cache),
    ("index", .bool options.index),
    ("index_capacity", .ofOption .ofNat options.indexCapacity)]

def Column.toJson (column : Column) : Json :=
  .object [
    ("type", column.type.toJson),
    ("metadata", .object [
      ("designated", .bool column.designated),
      ("symbol", .ofOption SymbolOptions.toJson column.symbol),
      ("geohash_bits", .ofOption .ofNat column.geohashBits),
      ("array_element", .ofOption ColumnType.toJson column.arrayElement)])]

def Ttl.ofDocument? (document : Document) : Option Ttl := do
  let fields ← document.asRecord? [["amount"], ["unit"]]
  return {
    amount := ← Document.required? fields "amount" Document.asWord?
    unit := ← Document.required? fields "unit" fun unit => unit.asName? >>= TtlUnit.ofKey? }

/-- The tuning of a table: its uncommitted rows and its lag. -/
def TableSettings.tuning? (document : Document) : Option (Option Nat × Option String) := do
  let fields ← document.asRecord? [["max_uncommitted_rows"], ["o3_max_lag"]]
  let rows ← Document.optional? fields "max_uncommitted_rows" Document.asWord?
  let lag ← Document.optional? fields "o3_max_lag" Document.asText?
  return (rows, lag)

namespace Table

def fieldNames : List (List String) :=
  [["name"], ["columns"], ["partition_by"], ["wal"], ["dedup_keys"], ["ttl"], ["tuning"]]

/-- The parts of a table that a document defines, whether or not they go together. -/
def ofDocument? (document : Document) : Option Table := do
  let fields ← document.asRecord? fieldNames
  let (rows, lag) ← Document.withDefault? fields "tuning" TableSettings.tuning? (none, none)
  return {
    name := ← Document.required? fields "name" Document.asText?
    columns := ← Document.required? fields "columns" (Document.asKeyed? Column.ofDocument?)
    partitionBy :=
      ← Document.withDefault? fields "partition_by"
        (fun word => word.asName? >>= PartitionBy.ofKey?) .none
    wal := ← Document.optional? fields "wal" Document.asBool?
    dedupKeys := ← Document.withDefault? fields "dedup_keys" (Document.asList? Document.asText?) []
    ttl := ← Document.optional? fields "ttl" Ttl.ofDocument?
    maxUncommittedRows := rows
    maxLag := lag }

/-- Why a text defines no table. -/
inductive DefinitionError where
  | malformed
  | refused (cause : SqlError)

/-- The table that a text starts with, whether or not its parts go together, and what follows it. -/
def leading? (s : String) : Option (Table × List Char) := do
  let (document, rest) ← Document.leading? s
  let table ← ofDocument? document
  return (table, rest)

/-- The table that a text defines. A table is refused before what follows it is looked at. -/
def ofText? (s : String) : Except DefinitionError Table := do
  match leading? s with
  | none => throw .malformed
  | some (table, rest) =>
    table.check.mapError .refused
    if Document.isSpaces rest then return table else throw .malformed

end Table
end SeriesSql
