import Mathlib
import SeriesSql.Sql.Walk

/-!
# The columns that an expression refers to

The references of an expression stand in a list in the order in which they are written, without
those of nested selects. Qualifying an expression qualifies the references in this list one by one.
-/

namespace SeriesSql

structure Reference where
  qualifier : Option String
  name : String
deriving DecidableEq, Repr

/-- A reference without a qualifier gets one when `owns` claims its name. -/
def Reference.qualify (qualifier : String) (owns : String → Bool) (reference : Reference) :
    Reference :=
  if reference.qualifier.isNone && owns reference.name then ⟨some qualifier, reference.name⟩
  else reference

mutual

/-- The references of an expression outside nested selects. -/
def Expr.references : Expr → List Reference
  | .column qualifier name => [⟨qualifier, name⟩]
  | .binary _ left right => left.references ++ right.references
  | .unary _ operand => operand.references
  | .call _ _ args _ => Expr.allReferences args
  | .inInterval subject _ => subject.references
  | .inList subject values => subject.references ++ Expr.allReferences values
  | .between subject low high => subject.references ++ low.references ++ high.references
  | .isNull subject _ => subject.references
  | .literal _ _ => []
  | .subquery _ => []
  | .raw _ => []

def Expr.allReferences : List Expr → List Reference
  | [] => []
  | expr :: rest => expr.references ++ Expr.allReferences rest

end

section

variable (qualifier : String) (owns : String → Bool)

theorem Expr.qualifyAll_eq_map (exprs : List Expr) :
    Expr.qualifyAll qualifier owns exprs = exprs.map (Expr.qualify qualifier owns) := by
  induction exprs with
  | nil => rfl
  | cons expr rest ih => rw [Expr.qualifyAll, ih, List.map_cons]

mutual

theorem Expr.references_qualify :
    ∀ expr : Expr, (expr.qualify qualifier owns).references =
      expr.references.map (Reference.qualify qualifier owns)
  | .column existing name => by
    cases h : existing.isNone && owns name <;> simp [qualify, references, Reference.qualify, h]
  | .binary _ left right => by
    simp only [qualify, references, List.map_append, references_qualify left,
      references_qualify right]
  | .unary _ operand => by
    simp only [qualify, references, references_qualify operand]
  | .call _ _ args _ => by
    simp only [qualify, references, allReferences_qualifyAll args]
  | .inInterval subject _ => by
    simp only [qualify, references, references_qualify subject]
  | .inList subject values => by
    simp only [qualify, references, List.map_append, references_qualify subject,
      allReferences_qualifyAll values]
  | .between subject low high => by
    simp only [qualify, references, List.map_append, references_qualify subject,
      references_qualify low, references_qualify high]
  | .isNull subject _ => by
    simp only [qualify, references, references_qualify subject]
  | .literal _ _ => rfl
  | .subquery _ => rfl
  | .raw _ => rfl

theorem Expr.allReferences_qualifyAll :
    ∀ exprs : List Expr, Expr.allReferences (Expr.qualifyAll qualifier owns exprs) =
      (Expr.allReferences exprs).map (Reference.qualify qualifier owns)
  | [] => rfl
  | expr :: rest => by
    simp only [qualifyAll, allReferences, List.map_append, references_qualify expr,
      allReferences_qualifyAll rest]

end

/-- A reference that qualifying leaves as it is. -/
def Reference.Kept (reference : Reference) : Prop :=
  reference.qualifier = none → owns reference.name = false

theorem Reference.kept_qualify (reference : Reference) :
    (reference.qualify qualifier owns).Kept owns := by
  obtain ⟨existing, name⟩ := reference
  cases existing <;> cases h : owns name <;> simp [Kept, qualify, h]

mutual

/-- Qualifying changes an expression exactly if it changes one of its references. -/
theorem Expr.qualify_eq_self_iff :
    ∀ expr : Expr, expr.qualify qualifier owns = expr ↔
      ∀ reference ∈ expr.references, reference.Kept owns
  | .column existing name => by
    cases existing <;> simp [qualify, references, Reference.Kept]
  | .binary _ left right => by
    simp only [qualify, references, List.forall_mem_append, binary.injEq, true_and,
      qualify_eq_self_iff left, qualify_eq_self_iff right]
  | .unary _ operand => by
    simp [qualify, references, qualify_eq_self_iff operand]
  | .call _ _ args _ => by
    simp [qualify, references, qualifyAll_eq_self_iff args]
  | .inInterval subject _ => by
    simp [qualify, references, qualify_eq_self_iff subject]
  | .inList subject values => by
    simp only [qualify, references, List.forall_mem_append, inList.injEq,
      qualify_eq_self_iff subject, qualifyAll_eq_self_iff values]
  | .between subject low high => by
    simp only [qualify, references, List.forall_mem_append, between.injEq,
      qualify_eq_self_iff subject, qualify_eq_self_iff low, qualify_eq_self_iff high, and_assoc]
  | .isNull subject _ => by
    simp [qualify, references, qualify_eq_self_iff subject]
  | .literal _ _ => by simp [qualify, references]
  | .subquery _ => by simp [qualify, references]
  | .raw _ => by simp [qualify, references]

theorem Expr.qualifyAll_eq_self_iff :
    ∀ exprs : List Expr, Expr.qualifyAll qualifier owns exprs = exprs ↔
      ∀ reference ∈ Expr.allReferences exprs, reference.Kept owns
  | [] => by simp [qualifyAll, allReferences]
  | expr :: rest => by
    simp only [qualifyAll, allReferences, List.forall_mem_append, List.cons.injEq,
      qualify_eq_self_iff expr, qualifyAll_eq_self_iff rest]

end

end

/-- The references of the projections and of the condition, which are read from the rows of the
source. -/
def Select.sourceReferences (select : Select) : List Reference :=
  select.projections.flatMap (fun p => p.expr.references) ++
    (select.condition.map Expr.references).getD []

end SeriesSql
