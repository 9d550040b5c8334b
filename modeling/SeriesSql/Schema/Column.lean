import SeriesSql.Error

/-!
# Columns of a table

A column has a type and metadata that go with some types only. Its metadata is kept as it was
declared; `check` says whether it fits the type, and `ddlType` is the type as a statement declares
it.
-/

namespace SeriesSql

/-- How the distinct values of a column of symbols are stored. -/
structure SymbolOptions where
  capacity : Option Nat
  cache : Option Bool
  index : Bool
  indexCapacity : Option Nat
deriving DecidableEq, Repr

/-- A column: its type, whether it is the table's designated timestamp, and what else its type
may need. -/
structure Column where
  type : ColumnType
  designated : Bool
  symbol : Option SymbolOptions
  geohashBits : Option Nat
  arrayElement : Option ColumnType
deriving DecidableEq, Repr

namespace Column

def ofType (type : ColumnType) : Column :=
  { type, designated := false, symbol := none, geohashBits := none, arrayElement := none }

/-- Refuses metadata that does not fit the type. -/
def check (name : String) (column : Column) : Except SqlError Unit := do
  refuseIf (column.designated && !column.type.isTimestamp) (.timestampType name column.type)
  refuseIf (column.symbol.isSome && column.type ≠ .symbol) (.symbolOptions name column.type)
  match column.geohashBits with
  | none => pure ()
  | some bits =>
    refuseIf (column.type ≠ .geohash) (.geohashBitsType name column.type)
    refuseIf (!(1 ≤ bits && bits ≤ 60)) (.geohashBits name bits)
  match column.arrayElement with
  | none => pure ()
  | some element =>
    refuseIf (column.type ≠ .array) (.arrayElementType name column.type)
    refuseIf (!element.isNumeric) (.arrayElement name element)

end Column

def SymbolOptions.ddl (options : SymbolOptions) : String :=
  let capacity := fun (n : Option Nat) => (n.map fun n => s!" CAPACITY {n}").getD ""
  let cache := (options.cache.map fun on => if on then " CACHE" else " NOCACHE").getD ""
  let index := if options.index then " INDEX" ++ capacity options.indexCapacity else ""
  capacity options.capacity ++ cache ++ index

/-- The type of a column as a statement declares it. Timestamps of both precisions are declared
alike. -/
def Column.ddlType (column : Column) : Except SqlError String :=
  match column.type with
  | .symbol => .ok ("SYMBOL" ++ (column.symbol.map SymbolOptions.ddl).getD "")
  | .geohash =>
    match column.geohashBits with
    | some bits => .ok s!"GEOHASH({bits}b)"
    | none => .error (.validation .geohashNoBits)
  | .array =>
    match column.arrayElement with
    | some element => .ok (element.name ++ "[]")
    | none => .error (.validation .arrayNoElement)
  | .timestampNs => .ok "TIMESTAMP"
  | type => .ok type.name

end SeriesSql
