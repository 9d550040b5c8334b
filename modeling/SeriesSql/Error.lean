import SeriesSql.Encoding.Base64
import SeriesSql.Sql.Keyword
import SeriesSql.Time.Duration
import SeriesSql.Value

/-!
# Errors

Every way in which a statement, a table, a cell or a request can be refused, as a cause. The wording
of all causes is in the `message` functions of this module.
-/

namespace SeriesSql

/-- Why a value has no literal of a type. -/
inductive LiteralFault where
  | notBoolean
  | notNumber
  | infinite
  | negativeLong256
  | notScalar
  | notTemporal
  | notGeohash
  | geohashAlphabet
  | notSequence
  | nestedArray
  | arrayElement
deriving DecidableEq, Repr

def LiteralFault.message : LiteralFault → String
  | notBoolean => "expected a boolean"
  | notNumber => "expected a number"
  | infinite => "infinite values have no literal"
  | negativeLong256 => "LONG256 values are unsigned"
  | notScalar => "expected a scalar value"
  | notTemporal => "expected a timestamp or an epoch integer"
  | notGeohash => "expected a geohash string"
  | geohashAlphabet => "geohashes may only contain base-32 geohash characters"
  | notSequence => "expected a sequence of numbers"
  | nestedArray => "nested arrays are not supported"
  | arrayElement => "array elements must be numbers"

/-- Why a cell of a response has no value of its column's type. -/
inductive CellFault where
  | notTimestamp
  | epochNotInteger
  | epochOutOfRange
  | notTemporal
  | notInteger
  | notHexInteger
  | integerExpected
  | outOfRange (lo hi : Int)
  | notNumber
  | base64 (fault : Base64.Fault)
  | base64Expected
deriving DecidableEq, Repr

def CellFault.message : CellFault → String
  | notTimestamp => "not an ISO-8601 timestamp"
  | epochNotInteger => "epoch is not an integer"
  | epochOutOfRange => "epoch is out of range"
  | notTemporal => "expected a string or an epoch number"
  | notInteger => "not an integer"
  | notHexInteger => "not a hexadecimal integer"
  | integerExpected => "expected an integer"
  | outOfRange lo hi => s!"out of range {lo}..={hi}"
  | notNumber => "not a number"
  | base64 fault => fault.message
  | base64Expected => "expected a base64 string"

/-- A rule that a statement, a table or a change of a table breaks. -/
inductive Violation where
  | emptyInList
  | period (role : PeriodRole) (text : String)
  | fillNotFinite (value : Double)
  | joinNeedsPredicate (kind : JoinKind)
  | joinTakesNoPredicate (kind : JoinKind)
  | joinTakesNoTolerance (kind : JoinKind)
  | latestOnNoKeys
  | sampleByStar
  | sampleByNoAggregate
  | insertNoRows (table : String)
  | insertNoColumns (table : String)
  | insertTypeCount (table : String) (columns types : Nat)
  | insertRowLength (table : String) (columns cells : Nat)
  | updateNoAssignments (table : String)
  | latestOnUnbound
  | latestOnNoTimestamp (table : String)
  | latestOnUnknownKey (table column : String)
  | emptyRow (table : String)
  | unknownColumn (table column : String)
  | nullTimestamp (table column : String)
  | timestampUpdate (table column : String)
  | timestampType (column : String) (type : ColumnType)
  | symbolOptions (column : String) (type : ColumnType)
  | geohashBits (column : String) (bits : Nat)
  | geohashBitsType (column : String) (type : ColumnType)
  | arrayElement (column : String) (element : ColumnType)
  | arrayElementType (column : String) (type : ColumnType)
  | geohashNoBits
  | arrayNoElement
  | repeatedColumn (table column : String)
  | emptyTableName
  | noColumns (table : String)
  | manyTimestamps (table : String) (columns : List String)
  | partitionNoTimestamp (table : String) (division : PartitionBy)
  | walUnpartitioned (table : String)
  | dedupUnknown (table key : String)
  | dedupRepeated (key : String)
  | dedupNoTimestamp (table : String)
  | dedupNoWal (table : String)
  | ttlZero (table : String)
  | ttlUnpartitioned (table : String)
  | addTimestamp (table column : String)
  | columnExists (table column : String)
  | columnMissing (table column : String)
  | dropTimestamp (table column : String)
  | ttlNotPositive
  | noPartitions (action : PartitionAction)
  | notPartitioned (table : String)
  | walBypassed (table : String)
deriving DecidableEq

def Violation.message : Violation → String
  | emptyInList => "IN requires at least one value; an empty list matches nothing"
  | period role text =>
    s!"Invalid {role.label} `{text}`: expected a count followed by one of U, T, s, m, h, d, w, M, y"
  | fillNotFinite value => s!"FILL value must be finite, got {value.toText}"
  | joinNeedsPredicate kind => s!"{kind.word} JOIN requires an ON predicate"
  | joinTakesNoPredicate kind => s!"{kind.word} JOIN does not take an ON predicate"
  | joinTakesNoTolerance kind => s!"{kind.word} JOIN does not take a tolerance"
  | latestOnNoKeys => "LATEST ON requires at least one PARTITION BY column"
  | sampleByStar => "SAMPLE BY requires explicit projections; it cannot be combined with SELECT *"
  | sampleByNoAggregate => "SAMPLE BY requires at least one aggregate projection"
  | insertNoRows table => s!"INSERT INTO {table} requires at least one row"
  | insertNoColumns table => s!"INSERT INTO {table} requires at least one column"
  | insertTypeCount table columns types =>
    s!"INSERT INTO {table} has {columns} columns but {types} column types"
  | insertRowLength table columns cells =>
    s!"INSERT INTO {table} has {columns} columns but a row with {cells} cells"
  | updateNoAssignments table => s!"UPDATE {table} requires at least one assignment"
  | latestOnUnbound => "LATEST ON requires a table with a designated timestamp"
  | latestOnNoTimestamp table =>
    s!"LATEST ON requires a designated timestamp, but {table} has none"
  | latestOnUnknownKey table column =>
    s!"LATEST ON partition column {column} is not a column of {table}"
  | emptyRow table => s!"A row inserted into {table} must set at least one column"
  | unknownColumn table column => s!"Column {column} is not a column of {table}"
  | nullTimestamp table column =>
    s!"The designated timestamp {column} of {table} cannot be null; leave it out to insert " ++
      "the current time"
  | timestampUpdate table column =>
    s!"The designated timestamp {column} of {table} cannot be updated"
  | timestampType column type =>
    s!"Column `{column}` of type {type.name} cannot be the designated timestamp"
  | symbolOptions column type =>
    s!"Column `{column}` of type {type.name} cannot have symbol options"
  | geohashBits column bits =>
    s!"Geohash column `{column}` must have between 1 and 60 bits, got {bits}"
  | geohashBitsType column type =>
    s!"Column `{column}` of type {type.name} cannot have geohash bits"
  | arrayElement column element =>
    s!"Array column `{column}` must have a numeric element type, got {element.name}"
  | arrayElementType column type =>
    s!"Column `{column}` of type {type.name} cannot have an array element type"
  | geohashNoBits => "GEOHASH columns need a precision (geohash_bits)"
  | arrayNoElement => "ARRAY columns need an element type (array_element)"
  | repeatedColumn table column => s!"Table `{table}` declares column `{column}` more than once"
  | emptyTableName => "Table name cannot be empty"
  | noColumns table => s!"Table `{table}` must have at least one column"
  | manyTimestamps table columns =>
    let names := ", ".intercalate columns
    s!"Table `{table}` has more than one designated timestamp: {names}"
  | partitionNoTimestamp table division =>
    s!"Table `{table}` is partitioned by {division.word} but has no designated timestamp"
  | walUnpartitioned table => s!"Table `{table}` must be partitioned to use WAL"
  | dedupUnknown table key => s!"Deduplication key `{key}` is not a column of table `{table}`"
  | dedupRepeated key => s!"Deduplication key `{key}` is listed more than once"
  | dedupNoTimestamp table =>
    s!"Deduplication keys of table `{table}` must include the designated timestamp"
  | dedupNoWal table => s!"Table `{table}` cannot deduplicate without WAL"
  | ttlZero table => s!"TTL of table `{table}` must be positive"
  | ttlUnpartitioned table => s!"Table `{table}` must be partitioned to have a TTL"
  | addTimestamp table column =>
    s!"Column `{column}` cannot be added as a designated timestamp; designate it when " ++
      s!"creating `{table}`"
  | columnExists table column => s!"Column `{column}` already exists in `{table}`"
  | columnMissing table column => s!"Column `{column}` does not exist in `{table}`"
  | dropTimestamp table column =>
    s!"The designated timestamp `{column}` of `{table}` cannot be dropped"
  | ttlNotPositive => "TTL must be positive"
  | noPartitions action => s!"{action.word} PARTITION requires at least one partition"
  | notPartitioned table => s!"Table `{table}` is not partitioned"
  | walBypassed table => s!"Table `{table}` does not use WAL"

/-- Why the engine gave no usable response to a statement. -/
inductive TransportError where
  | server (status : Nat) (message : String) (position : Option Nat) (sql : String)
  | timeout (sql : String) (after : Duration)
  | network (message : String)
  | invalidResponse (message : String)
deriving DecidableEq

namespace TransportError

def message : TransportError → String
  | server status text _ _ => s!"Server responded with status {status}: {text}"
  | timeout _ after => s!"Request timed out after {after.toText}"
  | network text => s!"Network: {text}"
  | invalidResponse text => s!"Invalid response: {text}"

/-- Whether the same statement may succeed when it is sent again. -/
def isRetryable : TransportError → Bool
  | server status _ _ _ => 500 ≤ status
  | timeout .. | network _ => true
  | invalidResponse _ => false

end TransportError

/-- Why a statement was not rendered, not answered, or its answer not decoded. -/
inductive SqlError where
  | noOperands (connective : Connective)
  | validation (violation : Violation)
  | binaryLiteral
  | literal (value : Value) (type : ColumnType) (fault : LiteralFault)
  | decode (cell : Json) (wireType : String) (fault : CellFault)
  | transport (cause : TransportError)
  | atCell (column : String) (row : Nat) (cause : SqlError)

instance : Inhabited SqlError :=
  ⟨.binaryLiteral⟩

def SqlError.message : SqlError → String
  | noOperands connective => s!"`{connective.label}` requires at least one expression"
  | validation violation => s!"Validation: {violation.message}"
  | binaryLiteral =>
    "Binary values cannot be rendered as SQL literals; use a bulk import instead"
  | literal value type fault =>
    s!"Cannot format {value.toText} as {type.name}: {fault.message}"
  | decode cell wireType fault =>
    s!"Failed to decode {cell.toText} as {wireType}: {fault.message}"
  | transport cause => cause.message
  | atCell column row cause =>
    s!"while decoding column `{column}` of row {row} {cause.message}"

def refuseIf (broken : Bool) (violation : Violation) : Except SqlError Unit :=
  if broken then .error (.validation violation) else .ok ()

end SeriesSql
