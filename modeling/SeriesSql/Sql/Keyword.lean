/-!
# Words of the dialect

The closed choices in a statement, each with the word or sign it is written as.
-/

namespace SeriesSql

inductive BinaryOp where
  | eq
  | neq
  | lt
  | lte
  | gt
  | gte
  | and
  | or
  | like
  | ilike
  | regex
  | add
  | sub
  | mul
  | div
deriving DecidableEq, Repr

def BinaryOp.sign : BinaryOp → String
  | eq => "="
  | neq => "!="
  | lt => "<"
  | lte => "<="
  | gt => ">"
  | gte => ">="
  | and => "AND"
  | or => "OR"
  | like => "LIKE"
  | ilike => "ILIKE"
  | regex => "~"
  | add => "+"
  | sub => "-"
  | mul => "*"
  | div => "/"

inductive UnaryOp where
  | not
  | neg
deriving DecidableEq, Repr

def UnaryOp.sign : UnaryOp → String
  | not => "NOT "
  | neg => "-"

/-- How a function computes: from one row, or from all rows of a group. -/
inductive CallKind where
  | scalar
  | aggregate
deriving DecidableEq, Repr

/-- The ways to join two sources. `asof` takes the closest right row at or before the left row's
timestamp, `lt` the closest one strictly before it. -/
inductive JoinKind where
  | inner
  | left
  | cross
  | asof
  | lt
  | splice
deriving DecidableEq, Repr

namespace JoinKind

def word : JoinKind → String
  | inner => "INNER"
  | left => "LEFT"
  | cross => "CROSS"
  | asof => "ASOF"
  | lt => "LT"
  | splice => "SPLICE"

def needsPredicate : JoinKind → Bool
  | inner | left => true
  | _ => false

def takesPredicate : JoinKind → Bool
  | cross => false
  | _ => true

def takesTolerance : JoinKind → Bool
  | asof | lt => true
  | _ => false

end JoinKind

inductive Direction where
  | asc
  | desc
deriving DecidableEq, Repr

def Direction.word : Direction → String
  | asc => "ASC"
  | desc => "DESC"

/-- The place of a period of time in a statement or a table. -/
inductive PeriodRole where
  | sampleInterval
  | joinTolerance
  | maxLag
deriving DecidableEq, Repr

def PeriodRole.label : PeriodRole → String
  | sampleInterval => "SAMPLE BY interval"
  | joinTolerance => "join tolerance"
  | maxLag => "o3MaxLag"

/-- How a table is divided by its designated timestamp. -/
inductive PartitionBy where
  | none
  | hour
  | day
  | week
  | month
  | year
deriving DecidableEq, Repr

namespace PartitionBy

def all : List PartitionBy := [none, hour, day, week, month, year]

def word : PartitionBy → String
  | none => "NONE"
  | hour => "HOUR"
  | day => "DAY"
  | week => "WEEK"
  | month => "MONTH"
  | year => "YEAR"

/-- The choice with a name in a table definition, which is its word in small letters. -/
def ofKey? (key : String) : Option PartitionBy :=
  all.find? fun choice => choice.word.toList.map Char.toLower = key.toList

end PartitionBy

inductive TtlUnit where
  | hours
  | days
  | weeks
  | months
  | years
deriving DecidableEq, Repr

namespace TtlUnit

def all : List TtlUnit := [hours, days, weeks, months, years]

def word : TtlUnit → String
  | hours => "HOURS"
  | days => "DAYS"
  | weeks => "WEEKS"
  | months => "MONTHS"
  | years => "YEARS"

def ofKey? (key : String) : Option TtlUnit :=
  all.find? fun unit => unit.word.toList.map Char.toLower = key.toList

end TtlUnit

inductive PartitionAction where
  | drop
  | detach
  | attach
deriving DecidableEq, Repr

def PartitionAction.word : PartitionAction → String
  | drop => "DROP"
  | detach => "DETACH"
  | attach => "ATTACH"

inductive Connective where
  | and
  | or
deriving DecidableEq, Repr

def Connective.op : Connective → BinaryOp
  | and => .and
  | or => .or

def Connective.label : Connective → String
  | and => "and"
  | or => "or"

end SeriesSql
