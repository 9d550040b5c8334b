import SeriesSql.Text.Property

/-!
# Column types

The types a column of the engine can have. The type decides how a literal is written, whether the
engine stores a null, and how a cell of a response is decoded.
-/

namespace SeriesSql

inductive ColumnType where
  | boolean
  | byte
  | short
  | char
  | int
  | float
  | long
  | double
  | decimal
  | date
  | timestamp
  | timestampNs
  | symbol
  | varchar
  | string
  | uuid
  | ipv4
  | binary
  | long256
  | geohash
  | array
deriving DecidableEq, Repr

namespace ColumnType

def all : List ColumnType :=
  [boolean, byte, short, char, int, float, long, double, decimal, date, timestamp, timestampNs,
    symbol, varchar, string, uuid, ipv4, binary, long256, geohash, array]

/-- The name that the engine uses. -/
def name : ColumnType → String
  | boolean => "BOOLEAN"
  | byte => "BYTE"
  | short => "SHORT"
  | char => "CHAR"
  | int => "INT"
  | float => "FLOAT"
  | long => "LONG"
  | double => "DOUBLE"
  | decimal => "DECIMAL"
  | date => "DATE"
  | timestamp => "TIMESTAMP"
  | timestampNs => "TIMESTAMP_NS"
  | symbol => "SYMBOL"
  | varchar => "VARCHAR"
  | string => "STRING"
  | uuid => "UUID"
  | ipv4 => "IPV4"
  | binary => "BINARY"
  | long256 => "LONG256"
  | geohash => "GEOHASH"
  | array => "ARRAY"

/-- The name in a table definition, which is the engine's name in small letters. -/
def key (type : ColumnType) : String :=
  String.ofList (type.name.toList.map Char.toLower)

def ofKey? (key : String) : Option ColumnType :=
  all.find? fun type => type.key = key

/-- The type that a response reports by a name, in any case and with white space around it. Arrays
are known by their brackets; geohashes and decimals may have parameters. -/
def ofWireName? (name : String) : Option ColumnType :=
  let upper := (Text.trim name).toList.map Char.toUpper
  if "[]".toList.isSuffixOf upper then some array
  else if geohash.name.toList.isPrefixOf upper then some geohash
  else if decimal.name.toList.isPrefixOf upper then some decimal
  else all.find? fun type => type ≠ array ∧ type.name.toList = upper

/-- Whether the engine stores a null in a column of this type. -/
def isNullable : ColumnType → Bool
  | boolean | byte | short => false
  | _ => true

/-- Whether the values are numbers of a fixed width. -/
def isNumeric : ColumnType → Bool
  | byte | short | int | float | long | double => true
  | _ => false

/-- Whether a column of this type can be the designated timestamp. -/
def isTimestamp : ColumnType → Bool
  | timestamp | timestampNs => true
  | _ => false

end ColumnType
end SeriesSql
