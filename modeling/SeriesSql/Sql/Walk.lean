import SeriesSql.Sql.Select

/-!
# Aggregates and qualifiers in expressions

Two walks through an expression. The first looks for an aggregate under operators and calls. The
second names the source of the columns that have no qualifier. Neither enters a nested select.
-/

namespace SeriesSql

mutual

/-- Whether an aggregate stands at the top or below operators and calls. -/
def Expr.isAggregate : Expr → Bool
  | .call .aggregate .. => true
  | .call .scalar _ args _ => Expr.anyAggregate args
  | .binary _ left right => left.isAggregate || right.isAggregate
  | .unary _ operand => operand.isAggregate
  | _ => false

def Expr.anyAggregate : List Expr → Bool
  | [] => false
  | expr :: rest => expr.isAggregate || Expr.anyAggregate rest

end

mutual

/-- Qualifies the columns without a qualifier that `owns` claims. -/
def Expr.qualify (qualifier : String) (owns : String → Bool) : Expr → Expr
  | .column existing name =>
    .column (if existing.isNone && owns name then some qualifier else existing) name
  | .binary op left right => .binary op (left.qualify qualifier owns) (right.qualify qualifier owns)
  | .unary op operand => .unary op (operand.qualify qualifier owns)
  | .call kind function args label =>
    .call kind function (Expr.qualifyAll qualifier owns args) label
  | .inInterval subject interval => .inInterval (subject.qualify qualifier owns) interval
  | .inList subject values =>
    .inList (subject.qualify qualifier owns) (Expr.qualifyAll qualifier owns values)
  | .between subject low high =>
    .between (subject.qualify qualifier owns) (low.qualify qualifier owns)
      (high.qualify qualifier owns)
  | .isNull subject negated => .isNull (subject.qualify qualifier owns) negated
  | .literal value type => .literal value type
  | .subquery select => .subquery select
  | .raw sql => .raw sql

def Expr.qualifyAll (qualifier : String) (owns : String → Bool) : List Expr → List Expr
  | [] => []
  | expr :: rest => expr.qualify qualifier owns :: Expr.qualifyAll qualifier owns rest

end

namespace Select

def labels (select : Select) : List String :=
  select.projections.filterMap Projection.label

/-- Qualifies the columns that `owns` claims in the projections, the condition, the grouping and
the order. A name that labels a projection is left bare everywhere. -/
def qualify (qualifier : String) (owns : String → Bool) (select : Select) : Select :=
  let claims := fun name => !select.labels.contains name && owns name
  { select with
    projections :=
      select.projections.map fun p => { p with expr := p.expr.qualify qualifier claims }
    condition := select.condition.map (Expr.qualify qualifier claims)
    groupBy := select.groupBy.map (Expr.qualify qualifier claims)
    orderBy := select.orderBy.map fun o => { o with expr := o.expr.qualify qualifier claims } }

end Select
end SeriesSql
