import Mathlib
import SeriesSql.Sql.Render

/-!
# What a text shows of a statement

Two literals with the same text cannot be told apart in a statement, and neither can a call that
computes from one row and one that computes from a group. The shape of an expression or a select is
what is left: the tree with the text of every literal in the place of its value and type, the text
of every fill, and calls without their kind.

A text shows the shape only of a plain tree: one with no raw text but the star of a count, with no
label on a call, and with no name that a statement has as a word of its own where the name would
stand.
-/

namespace SeriesSql

inductive FillShape where
  | none
  | null
  | prev
  | linear
  | value (text : String)
deriving DecidableEq

structure SampleShape where
  interval : String
  fill : List FillShape
  align : Option Alignment
deriving DecidableEq

mutual

/-- An expression by what is written for it. -/
inductive ExprShape where
  | column (qualifier : Option String) (name : String)
  | literal (text : String)
  | binary (op : BinaryOp) (left right : ExprShape)
  | unary (op : UnaryOp) (operand : ExprShape)
  | call (function : String) (args : List ExprShape) (label : Option String)
  | subquery (select : SelectShape)
  | inInterval (subject : ExprShape) (interval : String)
  | inList (subject : ExprShape) (values : List ExprShape)
  | between (subject low high : ExprShape)
  | isNull (subject : ExprShape) (negated : Bool)
  | raw (sql : String)

structure ProjectionShape where
  expr : ExprShape
  label : Option String

inductive SourceShape where
  | table (name : String) (label : Option String)
  | select (select : SelectShape) (label : String)

structure JoinShape where
  kind : JoinKind
  source : SourceShape
  predicate : Option ExprShape
  tolerance : Option String

structure OrderShape where
  expr : ExprShape
  direction : Direction

structure SelectShape where
  distinct : Bool
  projections : List ProjectionShape
  source : SourceShape
  joins : List JoinShape
  condition : Option ExprShape
  groupBy : List ExprShape
  orderBy : List OrderShape
  limit : Option Limit
  sampleBy : Option SampleShape
  latestOn : Option LatestOn

end

def Fill.shape : Fill → FillShape
  | .none => .none
  | .null => .null
  | .prev => .prev
  | .linear => .linear
  | .value x => .value x.toText

def SampleBy.shape (sampleBy : SampleBy) : SampleShape :=
  ⟨sampleBy.interval, sampleBy.fill.map Fill.shape, sampleBy.align⟩

mutual

def Expr.shape : Expr → ExprShape
  | .column qualifier name => .column qualifier name
  | .literal value type => .literal ((Literal.ofValue value type).toOption.getD "")
  | .binary op left right => .binary op left.shape right.shape
  | .unary op operand => .unary op operand.shape
  | .call _ function args label => .call function (Expr.shapes args) label
  | .subquery select => .subquery select.shape
  | .inInterval subject interval => .inInterval subject.shape interval
  | .inList subject values => .inList subject.shape (Expr.shapes values)
  | .between subject low high => .between subject.shape low.shape high.shape
  | .isNull subject negated => .isNull subject.shape negated
  | .raw sql => .raw sql

def Expr.shapes : List Expr → List ExprShape
  | [] => []
  | expr :: rest => expr.shape :: Expr.shapes rest

def Expr.shape? : Option Expr → Option ExprShape
  | none => none
  | some expr => some expr.shape

def Projection.shapes : List Projection → List ProjectionShape
  | [] => []
  | ⟨expr, label⟩ :: rest => ⟨expr.shape, label⟩ :: Projection.shapes rest

def Source.shape : Source → SourceShape
  | .table name label => .table name label
  | .select select label => .select select.shape label

def Join.shapes : List Join → List JoinShape
  | [] => []
  | ⟨kind, source, predicate, tolerance⟩ :: rest =>
    ⟨kind, source.shape, Expr.shape? predicate, tolerance⟩ :: Join.shapes rest

def OrderItem.shapes : List OrderItem → List OrderShape
  | [] => []
  | ⟨expr, direction⟩ :: rest => ⟨expr.shape, direction⟩ :: OrderItem.shapes rest

def Select.shape : Select → SelectShape
  | ⟨distinct, projections, source, joins, condition, groupBy, orderBy, limit, sampleBy,
      latestOn⟩ =>
    { distinct
      projections := Projection.shapes projections
      source := source.shape
      joins := Join.shapes joins
      condition := Expr.shape? condition
      groupBy := Expr.shapes groupBy
      orderBy := OrderItem.shapes orderBy
      limit
      sampleBy := sampleBy.map SampleBy.shape
      latestOn }

end

attribute [simp] Expr.shape Expr.shapes Expr.shape? Projection.shapes Source.shape Join.shapes
  OrderItem.shapes Select.shape

def Projection.shape (p : Projection) : ProjectionShape :=
  ⟨p.expr.shape, p.label⟩

def OrderItem.shape (item : OrderItem) : OrderShape :=
  ⟨item.expr.shape, item.direction⟩

theorem Expr.shapes_eq_map (es : List Expr) : Expr.shapes es = es.map Expr.shape := by
  induction es with
  | nil => rfl
  | cons e es ih => rw [Expr.shapes, ih, List.map_cons]

theorem Projection.shapes_eq_map (ps : List Projection) :
    Projection.shapes ps = ps.map Projection.shape := by
  induction ps with
  | nil => rfl
  | cons p ps ih =>
    cases p
    rw [Projection.shapes, ih, List.map_cons, Projection.shape]

theorem OrderItem.shapes_eq_map (items : List OrderItem) :
    OrderItem.shapes items = items.map OrderItem.shape := by
  induction items with
  | nil => rfl
  | cons item items ih =>
    cases item
    rw [OrderItem.shapes, ih, List.map_cons, OrderItem.shape]

/-! ### Plain trees -/

/-- The words that a statement may have where a name could stand: literals that are words, words in
front of an operand or of result columns, and words after a table. -/
def bareWords : List String :=
  ["NULL", "true", "false", "NaN", "NOT", "SELECT", "DISTINCT", "ON", "TOLERANCE"]

def IsFree? (name : Option String) : Prop :=
  ∀ n ∈ name, n ∉ bareWords

mutual

def Expr.IsPlain : Expr → Prop
  | .column qualifier name => IsFree? qualifier ∧ name ∉ bareWords
  | .literal _ _ => True
  | .binary _ left right => left.IsPlain ∧ right.IsPlain
  | .unary _ operand => operand.IsPlain
  | .call _ function args label =>
    function ∉ bareWords ∧ label = none ∧ (args = [.raw "*"] ∨ Expr.ArePlain args)
  | .subquery select => select.IsPlain
  | .inInterval subject _ => subject.IsPlain
  | .inList subject values => subject.IsPlain ∧ Expr.ArePlain values
  | .between subject low high => subject.IsPlain ∧ low.IsPlain ∧ high.IsPlain
  | .isNull subject _ => subject.IsPlain
  | .raw _ => False

def Expr.ArePlain : List Expr → Prop
  | [] => True
  | expr :: rest => expr.IsPlain ∧ Expr.ArePlain rest

def Expr.IsPlain? : Option Expr → Prop
  | none => True
  | some expr => expr.IsPlain

def Projection.ArePlain : List Projection → Prop
  | [] => True
  | ⟨expr, label⟩ :: rest => expr.IsPlain ∧ IsFree? label ∧ Projection.ArePlain rest

def Source.IsPlain : Source → Prop
  | .table name label => name ∉ bareWords ∧ IsFree? label
  | .select select label => select.IsPlain ∧ label ∉ bareWords

def Join.ArePlain : List Join → Prop
  | [] => True
  | ⟨_, source, predicate, _⟩ :: rest =>
    source.IsPlain ∧ Expr.IsPlain? predicate ∧ Join.ArePlain rest

def OrderItem.ArePlain : List OrderItem → Prop
  | [] => True
  | ⟨expr, _⟩ :: rest => expr.IsPlain ∧ OrderItem.ArePlain rest

def Select.IsPlain : Select → Prop
  | ⟨_, projections, source, joins, condition, groupBy, orderBy, _, _, latestOn⟩ =>
    Projection.ArePlain projections ∧ source.IsPlain ∧ Join.ArePlain joins ∧
      Expr.IsPlain? condition ∧ Expr.ArePlain groupBy ∧ OrderItem.ArePlain orderBy ∧
      ∀ latest ∈ latestOn, ∀ name ∈ latest.timestamp :: latest.keys, name ∉ bareWords

end

attribute [simp] Expr.IsPlain Expr.ArePlain Expr.IsPlain? Projection.ArePlain Source.IsPlain
  Join.ArePlain OrderItem.ArePlain Select.IsPlain

end SeriesSql
