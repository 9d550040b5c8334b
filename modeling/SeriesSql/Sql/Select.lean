import SeriesSql.Sql.Keyword
import SeriesSql.Value

/-!
# Expressions and selects

The structure of a select statement and of the expressions in it. The two contain each other: a
select can be an operand, a source of rows, or the right side of a join.
-/

namespace SeriesSql

/-- How many rows a select returns: so many after an offset, or so many from the end when the count
is negative. -/
structure Limit where
  count : Int
  offset : Option Int
deriving DecidableEq, Repr

/-- What a sampled interval without rows shows. -/
inductive Fill where
  | none
  | null
  | prev
  | linear
  | value (x : Double)
deriving DecidableEq

inductive Alignment where
  | calendar (timeZone offset : Option String)
  | firstObservation
deriving DecidableEq, Repr

structure SampleBy where
  interval : String
  fill : List Fill
  align : Option Alignment
deriving DecidableEq

/-- The latest row for each combination of the key columns. -/
structure LatestOn where
  timestamp : String
  keys : List String
deriving DecidableEq, Repr

mutual

/-- An expression. A call may carry a label of its own, which names it as a result column. -/
inductive Expr where
  | column (qualifier : Option String) (name : String)
  | literal (value : Value) (type : ColumnType)
  | binary (op : BinaryOp) (left right : Expr)
  | unary (op : UnaryOp) (operand : Expr)
  | call (kind : CallKind) (function : String) (args : List Expr) (label : Option String)
  | subquery (select : Select)
  | inInterval (subject : Expr) (interval : String)
  | inList (subject : Expr) (values : List Expr)
  | between (subject low high : Expr)
  | isNull (subject : Expr) (negated : Bool)
  | raw (sql : String)

structure Projection where
  expr : Expr
  label : Option String

/-- A source of rows. A select used as one must be labelled. -/
inductive Source where
  | table (name : String) (label : Option String)
  | select (select : Select) (label : String)

structure Join where
  kind : JoinKind
  source : Source
  predicate : Option Expr
  tolerance : Option String

structure OrderItem where
  expr : Expr
  direction : Direction

/-- A select statement. Without projections it returns every column. -/
structure Select where
  distinct : Bool
  projections : List Projection
  source : Source
  joins : List Join
  condition : Option Expr
  groupBy : List Expr
  orderBy : List OrderItem
  limit : Option Limit
  sampleBy : Option SampleBy
  latestOn : Option LatestOn

end

instance : Inhabited Expr :=
  ⟨.raw ""⟩

/-- The select of every column and row of a source. -/
def Select.ofSource (source : Source) : Select :=
  { distinct := false
    projections := []
    source
    joins := []
    condition := none
    groupBy := []
    orderBy := []
    limit := none
    sampleBy := none
    latestOn := none }

namespace Source

/-- The name that the columns of a source are qualified with. -/
def qualifier : Source → String
  | table name label => label.getD name
  | select _ label => label

def label? : Source → Option String
  | table _ label => label
  | select _ label => some label

end Source

namespace Expr

/-- A literal of the type that its value suggests. -/
def ofValue (value : Value) : Expr :=
  literal value value.inferredType

def countStar : Expr :=
  call .aggregate "count" [raw "*"] none

/-- The negation of a condition. A test for null is turned into the opposite test. -/
def negation : Expr → Expr
  | isNull subject negated => isNull subject (!negated)
  | expr => unary .not expr

/-- The conditions combined from left to right; a single one stays as it is. -/
def combine (connective : Connective) : List Expr → Option Expr
  | [] => none
  | first :: rest => some (rest.foldl (binary connective.op) first)

def conjoin (condition : Option Expr) (expr : Expr) : Expr :=
  match condition with
  | some existing => binary .and existing expr
  | none => expr

end Expr
end SeriesSql
