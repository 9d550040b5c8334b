import SeriesSql.ColumnType
import SeriesSql.Json.Basic
import SeriesSql.Number.Shortest
import SeriesSql.Text.Quoted
import SeriesSql.Time.Iso

/-!
# Values

A value goes into a statement as a literal or comes out of a response as a decoded cell. Wide
integers have a constructor of their own, so that none of them passes through a double.
-/

namespace SeriesSql

inductive Value where
  | null
  | bool (b : Bool)
  | int (n : Int64)
  | bigInt (n : Int)
  | float (x : Double)
  | text (s : String)
  | timestamp (t : Timestamp)
  | binary (bytes : List UInt8)
  | array (items : List Value)
  | json (document : Json)

instance : Inhabited Value :=
  ⟨.null⟩

namespace Value

def isNull : Value → Bool
  | null => true
  | _ => false

/-- The type of a literal of this value when no type is declared for it. -/
def inferredType : Value → ColumnType
  | bool _ => .boolean
  | int _ | bigInt _ => .long
  | float _ => .double
  | timestamp _ => .timestamp
  | binary _ => .binary
  | array _ => .array
  | null | text _ | json _ => .varchar

/-- The integer as a narrow or wide one, by its size. -/
def ofNat (n : Nat) : Value :=
  if n ≤ Int64.maxValue.toInt then int (Int64.ofNat n) else bigInt n

def asBool? : Value → Option Bool
  | bool b => some b
  | _ => none

def asInt64? : Value → Option Int64
  | int n => some n
  | bigInt n =>
    if Int64.minValue.toInt ≤ n ∧ n ≤ Int64.maxValue.toInt then some (Int64.ofInt n) else none
  | _ => none

def asInt? : Value → Option Int
  | int n => some n.toInt
  | bigInt n => some n
  | _ => none

/-- The double, to which a narrow integer is rounded. -/
def asDouble? : Value → Option Double
  | float x => some x
  | int n => some (.ofInt n.toInt)
  | _ => none

def asText? : Value → Option String
  | text s => some s
  | _ => none

def asTimestamp? : Value → Option Timestamp
  | timestamp t => some t
  | _ => none

def asBytes? : Value → Option (List UInt8)
  | binary bytes => some bytes
  | _ => none

mutual

/-- The text that stands for a value in a message. -/
def toText : Value → String
  | null => "null"
  | bool b => if b then "true" else "false"
  | int n => toString n.toInt
  | bigInt n => toString n
  | float x => x.toText
  | text s => Text.quoted s
  | timestamp t => t.toText
  | binary bytes => s!"<{bytes.length} bytes>"
  | array [] => "[]"
  | array (item :: rest) => "[" ++ item.toText ++ itemsText rest
  | json document => document.toText

/-- The items after the first one, and the end of the array. -/
def itemsText : List Value → String
  | [] => "]"
  | item :: rest => ", " ++ item.toText ++ itemsText rest

end

end Value
end SeriesSql
