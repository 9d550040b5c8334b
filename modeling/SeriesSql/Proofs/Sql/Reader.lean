import Mathlib
import SeriesSql.Proofs.Sql.Literal
import SeriesSql.Proofs.Sql.Shape

/-!
# Reading a statement back

A reader that takes the text of a statement apart again. It looks at what comes next to see which
form it is in and never goes back: a parenthesis opens a nested select, a negation or an operand of
an operator, and what follows an operand says which. Only a minus sign after a parenthesis is not
clear at once. It is an operator if the parenthesis is closed after the operand, and otherwise it
belongs to the number that the left operand starts with.

Every nested call uses up fuel, so a reader gives nothing when there is too little of it.
-/

namespace SeriesSql

/-- What is read from the front of a text, and the rest. -/
abbrev Reader (α : Type) := List Char → Option (α × List Char)

namespace Reader

/-! ### Words, names and other pieces -/

def expect (text : String) (cs : List Char) : Option (List Char) :=
  text.toList.isPrefixOf? cs

/-- The rest after a whole word and a space. -/
def keyword (word : String) (cs : List Char) : Option (List Char) :=
  match Lexeme.read? cs with
  | some (.word letters, ' ' :: rest) => if letters = word.toList then some rest else none
  | _ => none

def identifier : Reader String
  | '"' :: cs => (Token.unquote? '"' cs).map fun (body, rest) => (String.ofList body, rest)
  | cs =>
    match Lexeme.read? cs with
    | some (.word letters, rest) => some (String.ofList letters, rest)
    | _ => none

/-- A name in quotes, or a bare one that is no word of a statement. -/
def name : Reader String
  | '"' :: cs => (Token.unquote? '"' cs).map fun (body, rest) => (String.ofList body, rest)
  | cs =>
    match Lexeme.read? cs with
    | some (.word letters, rest) =>
      if String.ofList letters ∈ bareWords then none else some (String.ofList letters, rest)
    | _ => none

def literal : Reader String := fun cs =>
  (Lexeme.read? cs).map fun (_, rest) => (String.ofList (cs.take (cs.length - rest.length)), rest)

/-- A text in single quotes, after the first of them. -/
def quoted : Reader String := fun cs =>
  (Token.unquote? '\'' cs).map fun (body, rest) => (String.ofList body, rest)

def isDelimiter (c : Char) : Bool :=
  c == ' ' || c == ',' || c == '\n' || c == ')'

def chunk : Reader String := fun cs =>
  let (body, rest) := cs.span (!isDelimiter ·)
  some (String.ofList body, rest)

def integer : Reader Int := fun cs =>
  match cs.span (!isDelimiter ·) with
  | ('-' :: digits, rest) => some (-(Nat.ofDigitChars 10 digits 0 : Int), rest)
  | (digits, rest) => some (Nat.ofDigitChars 10 digits 0, rest)

/-- A piece after a fixed text, if the fixed text comes next. -/
def optional {α : Type} (before : String) (read : Reader α) : Reader (Option α) := fun cs =>
  match expect before cs with
  | some cs => (read cs).map fun (a, rest) => (some a, rest)
  | none => some (none, cs)

def optionalList {α : Type} (before : String) (read : Reader (List α)) : Reader (List α) :=
  fun cs =>
    match expect before cs with
    | some cs => read cs
    | none => some ([], cs)

def commaSeparated {α : Type} (item : Reader α) : Nat → Reader (List α)
  | 0, _ => none
  | fuel + 1, cs => do
    let (first, cs) ← item cs
    match expect ", " cs with
    | some cs => do
      let (rest, cs) ← commaSeparated item fuel cs
      some (first :: rest, cs)
    | none => some ([first], cs)

def choice {α : Type} (choices : List α) (text : α → String) : Reader α := fun cs =>
  choices.findSome? fun a => (expect (text a) cs).map fun rest => (a, rest)

def operator : Reader BinaryOp :=
  choice [.eq, .neq, .lt, .lte, .gt, .gte, .and, .or, .like, .ilike, .regex, .add, .sub, .mul, .div]
    fun op => " " ++ op.sign ++ " "

def joinKind : Reader JoinKind :=
  choice [.inner, .left, .cross, .asof, .lt, .splice] fun kind => "\n" ++ (kind.word ++ " JOIN ")

def direction : Reader Direction :=
  choice [.asc, .desc] fun direction => " " ++ direction.word

end Reader

def FillShape.ofText (text : String) : FillShape :=
  if text = "NONE" then .none
  else if text = "NULL" then .null
  else if text = "PREV" then .prev
  else if text = "LINEAR" then .linear
  else .value text

/-- An expression with a minus sign in front of the number that it starts with. -/
def ExprShape.negateHead : ExprShape → ExprShape
  | .literal text => .literal ("-" ++ text)
  | .inInterval subject interval => .inInterval subject.negateHead interval
  | .inList subject values => .inList subject.negateHead values
  | .isNull subject negated => .isNull subject.negateHead negated
  | e => e

namespace Reader

/-! ### Clauses without expressions -/

def fill : Reader FillShape := fun cs =>
  (chunk cs).map fun (text, rest) => (.ofText text, rest)

def fills (fuel : Nat) : Reader (List FillShape) :=
  optionalList " FILL(" fun cs => do
    let (items, cs) ← commaSeparated fill fuel cs
    let cs ← expect ")" cs
    some (items, cs)

def alignment : Reader (Option Alignment) := fun cs =>
  match expect " ALIGN TO CALENDAR" cs with
  | some cs => do
    let (timeZone, cs) ← optional " TIME ZONE '" quoted cs
    let (offset, cs) ← optional " WITH OFFSET '" quoted cs
    some (some (.calendar timeZone offset), cs)
  | none =>
    match expect " ALIGN TO FIRST OBSERVATION" cs with
    | some cs => some (some .firstObservation, cs)
    | none => some (none, cs)

def sampleBy (fuel : Nat) : Reader SampleShape := fun cs => do
  let (interval, cs) ← chunk cs
  let (items, cs) ← fills fuel cs
  let (align, cs) ← alignment cs
  some (⟨interval, items, align⟩, cs)

def latestOn (fuel : Nat) : Reader LatestOn := fun cs => do
  let (timestamp, cs) ← name cs
  let cs ← expect " PARTITION BY " cs
  let (keys, cs) ← commaSeparated name fuel cs
  some (⟨timestamp, keys⟩, cs)

def limit : Reader Limit := fun cs => do
  let (count, cs) ← integer cs
  let (offset, cs) ← optional ", " integer cs
  some (⟨count, offset⟩, cs)

def tableLabel : Reader (Option String) := fun cs =>
  match cs with
  | ' ' :: rest =>
    match name rest with
    | some (label, rest) => some (some label, rest)
    | none => some (none, cs)
  | _ => some (none, cs)

/-! ### Expressions and selects -/

/-- A result column, when it is known how to read its expression. -/
def projection (expr : Reader ExprShape) : Reader ProjectionShape := fun cs => do
  let (e, cs) ← expr cs
  let (label, cs) ← optional " AS " name cs
  some (⟨e, label⟩, cs)

def orderItem (expr : Reader ExprShape) : Reader OrderShape := fun cs => do
  let (e, cs) ← expr cs
  let (d, cs) ← direction cs
  some (⟨e, d⟩, cs)

def distinct : Reader Bool := fun cs =>
  match keyword "DISTINCT" cs with
  | some cs => some (true, cs)
  | none => some (false, cs)

/-- Result columns, when it is known how to read one of them, or the star for none. -/
def columns (item : Reader ProjectionShape) (fuel : Nat) : Reader (List ProjectionShape)
  | '*' :: cs => some ([], cs)
  | cs => commaSeparated item fuel cs

mutual

def expr : Nat → Reader ExprShape
  | 0, _ => none
  | fuel + 1, cs => do
    let (first, cs) ← atom fuel cs
    suffixes fuel first cs

/-- An expression without tests after it. -/
def atom : Nat → Reader ExprShape
  | 0, _ => none
  | fuel + 1, '(' :: cs => inParentheses fuel cs
  | fuel + 1, cs =>
    match name cs with
    | some (n, cs) => named fuel n cs
    | none => (literal cs).map fun (text, rest) => (.literal text, rest)

/-- A column or a call after its first name. -/
def named : Nat → String → Reader ExprShape
  | 0, _, _ => none
  | _ + 1, n, '.' :: cs => (name cs).map fun (column, rest) => (.column (some n) column, rest)
  | _ + 1, n, '(' :: '*' :: ')' :: cs => some (.call n [.raw "*"] none, cs)
  | _ + 1, n, '(' :: ')' :: cs => some (.call n [] none, cs)
  | fuel + 1, n, '(' :: cs => do
    let (args, cs) ← commaSeparated (expr fuel) fuel cs
    let cs ← expect ")" cs
    some (.call n args none, cs)
  | _ + 1, n, cs => some (.column none n, cs)

/-- What stands in parentheses after the first of them. -/
def inParentheses : Nat → Reader ExprShape
  | 0, _ => none
  | fuel + 1, cs =>
    match keyword "SELECT" cs with
    | some cs => do
      let (nested, cs) ← select fuel cs
      let cs ← expect ")" cs
      some (.subquery nested, cs)
    | none =>
      match keyword "NOT" cs with
      | some cs => do
        let (operand, cs) ← expr fuel cs
        let cs ← expect ")" cs
        some (.unary .not operand, cs)
      | none =>
        match cs with
        | '-' :: cs => do
          let (operand, cs) ← expr fuel cs
          match expect ")" cs with
          | some cs => some (.unary .neg operand, cs)
          | none => operation fuel operand.negateHead cs
        | cs => do
          let (left, cs) ← expr fuel cs
          operation fuel left cs

/-- What follows the first operand in parentheses. -/
def operation : Nat → ExprShape → Reader ExprShape
  | 0, _, _ => none
  | fuel + 1, left, cs =>
    match expect " BETWEEN " cs with
    | some cs => do
      let (low, cs) ← expr fuel cs
      let cs ← expect " AND " cs
      let (high, cs) ← expr fuel cs
      let cs ← expect ")" cs
      some (.between left low high, cs)
    | none => do
      let (op, cs) ← operator cs
      let (right, cs) ← expr fuel cs
      let cs ← expect ")" cs
      some (.binary op left right, cs)

def suffixes : Nat → ExprShape → Reader ExprShape
  | 0, _, _ => none
  | fuel + 1, subject, cs =>
    match expect " IS NULL" cs with
    | some cs => suffixes fuel (.isNull subject false) cs
    | none =>
      match expect " IS NOT NULL" cs with
      | some cs => suffixes fuel (.isNull subject true) cs
      | none =>
        match expect " IN '" cs with
        | some cs => do
          let (interval, cs) ← quoted cs
          suffixes fuel (.inInterval subject interval) cs
        | none =>
          match expect " IN (" cs with
          | some cs => do
            let (values, cs) ← commaSeparated (expr fuel) fuel cs
            let cs ← expect ")" cs
            suffixes fuel (.inList subject values) cs
          | none => some (subject, cs)

def source : Nat → Reader SourceShape
  | 0, _ => none
  | fuel + 1, '(' :: cs => do
    let cs ← keyword "SELECT" cs
    let (nested, cs) ← select fuel cs
    let cs ← expect ") " cs
    let (label, cs) ← name cs
    some (.select nested label, cs)
  | _ + 1, cs => do
    let (table, cs) ← name cs
    let (label, cs) ← tableLabel cs
    some (.table table label, cs)

def joins : Nat → Reader (List JoinShape)
  | 0, _ => none
  | fuel + 1, cs =>
    match joinKind cs with
    | some (kind, cs) => do
      let (right, cs) ← source fuel cs
      let (predicate, cs) ← optional " ON " (expr fuel) cs
      let (tolerance, cs) ← optional " TOLERANCE " chunk cs
      let (rest, cs) ← joins fuel cs
      some (⟨kind, right, predicate, tolerance⟩ :: rest, cs)
    | none => some ([], cs)

def select : Nat → Reader SelectShape
  | 0, _ => none
  | fuel + 1, cs => do
    let (isDistinct, cs) ← distinct cs
    let (projections, cs) ← columns (projection (expr fuel)) fuel cs
    let cs ← expect "\nFROM " cs
    let (rows, cs) ← source fuel cs
    let (joined, cs) ← joins fuel cs
    let (latest, cs) ← optional "\nLATEST ON " (latestOn fuel) cs
    let (condition, cs) ← optional "\nWHERE " (expr fuel) cs
    let (sample, cs) ← optional "\nSAMPLE BY " (sampleBy fuel) cs
    let (groups, cs) ← optionalList "\nGROUP BY " (commaSeparated (expr fuel) fuel) cs
    let (order, cs) ← optionalList "\nORDER BY " (commaSeparated (orderItem (expr fuel)) fuel) cs
    let (count, cs) ← optional "\nLIMIT " limit cs
    some (⟨isDistinct, projections, rows, joined, condition, groups, order, count, sample, latest⟩,
      cs)

end

end Reader
end SeriesSql
