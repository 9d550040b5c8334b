import SeriesSql.Sql.Walk
import SeriesSql.Sql.Literal
import SeriesSql.Sql.Writer

/-!
# Rendering statements

The text of every statement and of its parts. A statement has one clause to a line, in a fixed
order. Binary and unary operators and range tests stand in parentheses, so the text of an operand
never depends on what is around it.
-/

namespace SeriesSql

open Writer

def Writer.violate (violation : Violation) : Writer Unit :=
  throw (.validation violation)

/-- Appends a clause in front of which something stands, if it is there. -/
def Writer.emitOptional (before : String) : Option String → Writer Unit
  | some text => emit (before ++ text)
  | none => pure ()

/-- Writes a clause after a separator, if it is there. -/
def Writer.emitClause {α : Type} (before : String) (part : Option α) (write : α → Writer Unit) :
    Writer Unit :=
  match part with
  | some part => do
    emit before
    write part
  | none => pure ()

def Token.column (qualifier : Option String) (name : String) : String :=
  match qualifier with
  | some qualifier => Token.name qualifier ++ "." ++ Token.name name
  | none => Token.name name

def Token.labelled (label : Option String) : Writer Unit :=
  emitOptional " AS " (label.map Token.name)

def Fill.write : Fill → Writer Unit
  | .none => emit "NONE"
  | .null => emit "NULL"
  | .prev => emit "PREV"
  | .linear => emit "LINEAR"
  | .value x => if x.isFinite then emit x.toText else violate (.fillNotFinite x)

def Alignment.write : Alignment → Writer Unit
  | .calendar timeZone offset => do
    emit "ALIGN TO CALENDAR"
    emitOptional " TIME ZONE " (timeZone.map Token.quoted)
    emitOptional " WITH OFFSET " (offset.map Token.quoted)
  | .firstObservation => emit "ALIGN TO FIRST OBSERVATION"

/-- Writes the fills of sampled intervals in parentheses, if there are any. -/
def Fill.writeList (fills : List Fill) : Writer Unit :=
  if fills.isEmpty then pure ()
  else do
    emit " FILL("
    separated ", " Fill.write fills
    emit ")"

def SampleBy.write (sampleBy : SampleBy) : Writer Unit := do
  require (Period.check .sampleInterval sampleBy.interval)
  emit ("SAMPLE BY " ++ sampleBy.interval)
  Fill.writeList sampleBy.fill
  emitClause " " sampleBy.align Alignment.write

def LatestOn.write (latestOn : LatestOn) : Writer Unit :=
  if latestOn.keys.isEmpty then violate .latestOnNoKeys
  else
    emit ("LATEST ON " ++ Token.name latestOn.timestamp ++ " PARTITION BY " ++
      Token.names latestOn.keys)

def Limit.write (limit : Limit) : Writer Unit := do
  emit s!"LIMIT {limit.count}"
  emitOptional ", " (limit.offset.map toString)

/-- Refuses a join whose predicate or tolerance does not go with its kind. -/
def Join.check (join : Join) : Except SqlError Unit := do
  refuseIf (join.predicate.isNone && join.kind.needsPredicate) (.joinNeedsPredicate join.kind)
  refuseIf (join.predicate.isSome && !join.kind.takesPredicate) (.joinTakesNoPredicate join.kind)
  refuseIf (join.tolerance.isSome && !join.kind.takesTolerance) (.joinTakesNoTolerance join.kind)
  join.tolerance.forM (Period.check .joinTolerance)

/-- Refuses sampling without projections or without an aggregate among them. -/
def Select.check (select : Select) : Except SqlError Unit := do
  refuseIf (select.sampleBy.isSome && select.projections.isEmpty) .sampleByStar
  refuseIf (select.sampleBy.isSome && !select.projections.any fun p => p.expr.isAggregate)
    .sampleByNoAggregate

mutual

def Expr.write : Expr → Writer Unit
  | .column qualifier name => emit (Token.column qualifier name)
  | .literal value type => emitResult (Literal.ofValue value type)
  | .binary op left right => do
    emit "("
    left.write
    emit (" " ++ op.sign ++ " ")
    right.write
    emit ")"
  | .unary op operand => do
    emit ("(" ++ op.sign)
    operand.write
    emit ")"
  | .call _ function args label => do
    emit (Token.name function ++ "(")
    Expr.writeList args
    emit ")"
    Token.labelled label
  | .subquery select => do
    emit "("
    select.write
    emit ")"
  | .inInterval subject interval => do
    subject.write
    emit (" IN " ++ Token.quoted interval)
  | .inList subject values => do
    if values.isEmpty then violate .emptyInList
    subject.write
    emit " IN ("
    Expr.writeList values
    emit ")"
  | .between subject low high => do
    emit "("
    subject.write
    emit " BETWEEN "
    low.write
    emit " AND "
    high.write
    emit ")"
  | .isNull subject negated => do
    subject.write
    emit (if negated then " IS NOT NULL" else " IS NULL")
  | .raw sql => emit sql

def Expr.writeList : List Expr → Writer Unit
  | [] => pure ()
  | expr :: rest => do
    expr.write
    Expr.writeRest rest

/-- Writes further expressions, each after a comma. -/
def Expr.writeRest : List Expr → Writer Unit
  | [] => pure ()
  | expr :: rest => do
    emit ", "
    expr.write
    Expr.writeRest rest

def Expr.writeOptional (before : String) : Option Expr → Writer Unit
  | none => pure ()
  | some expr => do
    emit before
    expr.write

def Projection.write : Projection → Writer Unit
  | ⟨expr, label⟩ => do
    expr.write
    Token.labelled label

def Projection.writeList : List Projection → Writer Unit
  | [] => pure ()
  | projection :: rest => do
    projection.write
    Projection.writeRest rest

def Projection.writeRest : List Projection → Writer Unit
  | [] => pure ()
  | projection :: rest => do
    emit ", "
    projection.write
    Projection.writeRest rest

def Source.write : Source → Writer Unit
  | .table name label => do
    emit (Token.name name)
    emitOptional " " (label.map Token.name)
  | .select select label => do
    emit "("
    select.write
    emit (") " ++ Token.name label)

def Join.write : Join → Writer Unit
  | ⟨kind, source, predicate, tolerance⟩ => do
    require (Join.check ⟨kind, source, predicate, tolerance⟩)
    emit (kind.word ++ " JOIN ")
    source.write
    Expr.writeOptional " ON " predicate
    emitOptional " TOLERANCE " tolerance

def Join.writeLines : List Join → Writer Unit
  | [] => pure ()
  | join :: rest => do
    emit "\n"
    join.write
    Join.writeLines rest

def OrderItem.write : OrderItem → Writer Unit
  | ⟨expr, direction⟩ => do
    expr.write
    emit (" " ++ direction.word)

def OrderItem.writeList : List OrderItem → Writer Unit
  | [] => pure ()
  | item :: rest => do
    item.write
    OrderItem.writeRest rest

def OrderItem.writeRest : List OrderItem → Writer Unit
  | [] => pure ()
  | item :: rest => do
    emit ", "
    item.write
    OrderItem.writeRest rest

def Select.write : Select → Writer Unit
  | ⟨distinct, projections, source, joins, condition, groupBy, orderBy, limit, sampleBy,
      latestOn⟩ => do
    require (Select.check ⟨distinct, projections, source, joins, condition, groupBy, orderBy,
      limit, sampleBy, latestOn⟩)
    emit (if distinct then "SELECT DISTINCT " else "SELECT ")
    if projections.isEmpty then emit "*"
    Projection.writeList projections
    emit "\nFROM "
    source.write
    Join.writeLines joins
    emitClause "\n" latestOn LatestOn.write
    Expr.writeOptional "\nWHERE " condition
    emitClause "\n" sampleBy SampleBy.write
    unless groupBy.isEmpty do emit "\nGROUP BY "
    Expr.writeList groupBy
    unless orderBy.isEmpty do emit "\nORDER BY "
    OrderItem.writeList orderBy
    emitClause "\n" limit Limit.write

end

/-- Writes the clause of sort keys by itself. -/
def OrderItem.writeClause (items : List OrderItem) : Writer Unit := do
  emit "ORDER BY "
  OrderItem.writeList items

end SeriesSql
