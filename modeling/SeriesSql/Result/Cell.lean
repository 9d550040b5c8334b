import SeriesSql.Error

/-!
# Cells of a response

A cell is decoded by the name of its column's type. Null is null in every column. A cell of an
unknown type is passed on as it is. A cell that does not fit its type is an error and never a
default.
-/

namespace SeriesSql.Cell

/-- A text as a text, anything else as JSON. -/
def passOn : Json → Value
  | .string s => .text s
  | cell => .json cell

/-- The finite double nearest to the text of a JSON number. -/
def double? (text : String) : Option Double :=
  ((Decimal.ofText? text.toList).map Double.ofDecimal).filter Double.isFinite

def int64? (cs : List Char) : Option Int :=
  Integer.within? Int64.minValue.toInt Int64.maxValue.toInt cs

/-- The timestamp of a text, or of an epoch with so many ticks to the second. -/
def timestamp (ticksPerSecond : Nat) : Json → Except CellFault Value
  | .string s =>
    match Timestamp.ofText? s with
    | some t => .ok (.timestamp t)
    | none => .error .notTimestamp
  | .number text =>
    match int64? text.toList with
    | none => .error .epochNotInteger
    | some epoch =>
      match Timestamp.ofTicks? ticksPerSecond epoch with
      | some t => .ok (.timestamp t)
      | none => .error .epochOutOfRange
  | _ => .error .notTemporal

def wideInteger (radix : Nat) (fault : CellFault) (cs : List Char) : Except CellFault Value :=
  match Integer.wide? radix cs with
  | some n => .ok (.bigInt n)
  | none => .error fault

/-- The integer of any size, which a text may also give in hexadecimal. -/
def integer : Json → Except CellFault Value
  | .number text => wideInteger 10 .notInteger text.toList
  | .string s =>
    match (Text.trim s).toList with
    | '0' :: 'x' :: cs => wideInteger 16 .notHexInteger cs
    | '0' :: 'X' :: cs => wideInteger 16 .notHexInteger cs
    | cs => wideInteger 10 .notInteger cs
  | _ => .error .integerExpected

def isIntegerText : List Char → Bool
  | '-' :: cs => (Integer.digits? cs).isSome
  | cs => (Integer.digits? cs).isSome

/-- The epoch of an integer, which counts nanoseconds, or the timestamp of another text. -/
def nanoTimestamp : Json → Except CellFault Value
  | .number text => wideInteger 10 .notInteger text.toList
  | .string s =>
    if isIntegerText s.toList then wideInteger 10 .notInteger s.toList
    else timestamp 1000000 (.string s)
  | cell => timestamp 1000000 cell

def truth : Json → Bool
  | .null => false
  | .bool b => b
  | .number text => (double? text).any (!·.isZero)
  | .string s => s ≠ ""
  | .array _ | .object _ => true

/-- The integer that a double without a fraction is, if it is one of 64 bits; the bound above them
counts as the greatest of them. -/
def int64OfDouble? (x : Double) : Option Int :=
  let hi := Int64.maxValue.toInt
  (x.toInt?.filter fun n => Int64.minValue.toInt ≤ n && n ≤ hi + 1).map fun n => min n hi

/-- The integer of a number, which may be written with a fraction or an exponent, or of a text. -/
def smallInteger? : Json → Option Int
  | .number text => int64? text.toList <|> double? text >>= int64OfDouble?
  | .string s => int64? (Text.trim s).toList
  | _ => none

/-- The integer of a cell in a column of integers from `lo` to `hi`. -/
def boundedInteger (lo hi : Int) (cell : Json) : Except CellFault Value :=
  match smallInteger? cell with
  | none => .error .notInteger
  | some n => if lo ≤ n ∧ n ≤ hi then .ok (.int (Int64.ofInt n)) else .error (.outOfRange lo hi)

def anyDouble? : Json → Option Double
  | .number text => double? text
  | .string s => Double.ofText? (Text.trim s).toList
  | _ => none

def double (cell : Json) : Except CellFault Value :=
  match anyDouble? cell with
  | some x => .ok (.float x)
  | none => .error .notNumber

def bytes : Json → Except CellFault Value
  | .string s => ((Base64.decode? s.toUTF8.toList).map .binary).mapError .base64
  | _ => .error .base64Expected

def ofType (type : ColumnType) (cell : Json) : Except CellFault Value :=
  match type with
  | .timestamp => timestamp 1000000 cell
  | .date => timestamp 1000 cell
  | .timestampNs => nanoTimestamp cell
  | .long | .long256 => integer cell
  | .boolean => .ok (.bool (truth cell))
  | .byte => boundedInteger Int8.minValue.toInt Int8.maxValue.toInt cell
  | .short => boundedInteger Int16.minValue.toInt Int16.maxValue.toInt cell
  | .int => boundedInteger Int32.minValue.toInt Int32.maxValue.toInt cell
  | .float | .double => double cell
  | .binary => bytes cell
  | .char | .decimal | .symbol | .varchar | .string | .uuid | .ipv4 | .geohash | .array =>
    .ok (passOn cell)

/-- The value of a cell in a column whose type goes by a name. -/
def decode (cell : Json) (wireType : String) : Except SqlError Value :=
  match cell, ColumnType.ofWireName? wireType with
  | .null, _ => .ok .null
  | cell, none => .ok (passOn cell)
  | cell, some type => (ofType type cell).mapError (.decode cell wireType)

end SeriesSql.Cell
