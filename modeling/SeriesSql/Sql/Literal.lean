import SeriesSql.Error
import SeriesSql.Sql.Token
import SeriesSql.Text.Property

/-!
# Literals

The literal of a value in a statement depends on the type of the column it is compared with or
stored in. Null has one literal for all types. Texts only ever appear in quotes, but for geohashes,
whose alphabet is checked, and for periods of time such as `1h` or `500T`: a count of one or more
decimal digits, and one letter for the unit.
-/

namespace SeriesSql.Literal

/-- A character of the base-32 alphabet of geohashes. -/
def isGeohashChar (c : Char) : Bool :=
  c.isDigit || (c.isLower && c != 'a' && c != 'i' && c != 'l' && c != 'o')

def isGeohash (s : String) : Bool :=
  !s.toList.isEmpty && s.toList.all isGeohashChar

/-- The literal of a double, which no infinity has. -/
def ofDouble (x : Double) : Except LiteralFault String :=
  match x with
  | .infinite _ => .error .infinite
  | x => .ok x.toText

def ofNumber : Value → Except LiteralFault String
  | .int n => .ok (toString n.toInt)
  | .bigInt n => .ok (toString n)
  | .float x => ofDouble x
  | _ => .error .notNumber

/-- The text of a scalar, which its literal has in quotes. -/
def scalarText : Value → Except LiteralFault String
  | .text s => .ok s
  | .bool b => .ok (if b then "true" else "false")
  | .int n => .ok (toString n.toInt)
  | .bigInt n => .ok (toString n)
  | .float x => ofDouble x
  | .timestamp t => .ok (t.toUtcText 6)
  | .json (.string s) => .ok s
  | _ => .error .notScalar

/-- The literal of a value in a column of timestamps with so many fraction digits; integers are
epochs. -/
def ofTemporal (places : Nat) : Value → Except LiteralFault String
  | .timestamp t => .ok (Token.quoted (t.toUtcText places))
  | .int n => .ok (toString n.toInt)
  | .bigInt n => .ok (toString n)
  | .text s => .ok (Token.quoted s)
  | _ => .error .notTemporal

def ofLong256 : Value → Except LiteralFault String
  | .bigInt n =>
    if n < 0 then .error .negativeLong256
    else .ok (Token.quoted (String.ofList ('0' :: 'x' :: Integer.hex n.natAbs)))
  | value => (scalarText value).map Token.quoted

def ofGeohash : Value → Except LiteralFault String
  | .text s => if isGeohash s then .ok ("##" ++ s) else .error .geohashAlphabet
  | _ => .error .notGeohash

/-- The text of one element of an array. The second part of the error is the value at fault. -/
def elementText (sequence element : Value) : Except (LiteralFault × Value) String :=
  match element with
  | .int n => .ok (toString n.toInt)
  | .bigInt n => .ok (toString n)
  | .float x => (ofDouble x).mapError fun fault => (fault, element)
  | .array _ => .error (.nestedArray, sequence)
  | _ => .error (.arrayElement, sequence)

def ofSequence (value : Value) : Except (LiteralFault × Value) String :=
  match value with
  | .array items => do
    let elements ← items.mapM (elementText value)
    return "\x7b" ++ ",".intercalate elements ++ "\x7d"
  | _ => .error (.notSequence, value)

/-- Names the value and the type that a fault is about. -/
def blame (value : Value) (type : ColumnType) (result : Except LiteralFault String) :
    Except SqlError String :=
  result.mapError (.literal value type)

def ofBoolean : Value → Except LiteralFault String
  | .bool b => .ok (if b then "true" else "false")
  | _ => .error .notBoolean

/-- The literal of a value that is no null, by the kind of the column. Bytes have a literal in no
column that stores them or texts. -/
def ofPresent (value : Value) (type : ColumnType) : Except SqlError String :=
  match type, value with
  | .boolean, _ => blame value type (ofBoolean value)
  | .byte, _ | .short, _ | .int, _ | .float, _ | .long, _ | .double, _ =>
    blame value type (ofNumber value)
  | .date, _ | .timestamp, _ => blame value type (ofTemporal 6 value)
  | .timestampNs, _ => blame value type (ofTemporal 9 value)
  | .geohash, _ => blame value type (ofGeohash value)
  | .array, _ => (ofSequence value).mapError fun (fault, culprit) => .literal culprit type fault
  | .binary, _ => .error .binaryLiteral
  | _, .binary _ => .error .binaryLiteral
  | .long256, _ => blame value type (ofLong256 value)
  | _, _ => blame value type ((scalarText value).map Token.quoted)

/-- The literal of a value in a column of a type. -/
def ofValue (value : Value) (type : ColumnType) : Except SqlError String :=
  if value.isNull then .ok "NULL" else ofPresent value type

end SeriesSql.Literal

namespace SeriesSql.Period

/-- The letters of the units, from microseconds to years. -/
def units : List Char := ['U', 'T', 's', 'm', 'h', 'd', 'w', 'M', 'y']

def isPeriod (cs : List Char) : Bool :=
  match cs.span Text.isDecimalDigit with
  | (_ :: _, [unit]) => units.contains unit
  | _ => false

def check (role : PeriodRole) (text : String) : Except SqlError Unit :=
  refuseIf (!isPeriod text.toList) (.period role text)

end SeriesSql.Period
