import Mathlib
import SeriesSql.Proofs.Sql.Reference

/-!
# Places in an expression

A place in an expression is the list of numbers that leads to it, each saying which of the operands
to enter. No place is inside a nested select. What stands at its places determines an expression, so
they tell in full what qualifying does: a bare column that is claimed gets the qualifier, and
nothing is different at any other place.
-/

namespace SeriesSql

namespace Expr

/-- The expressions right below an expression. A nested select has none of its own. -/
def operands : Expr → List Expr
  | binary _ left right => [left, right]
  | unary _ operand => [operand]
  | call _ _ args _ => args
  | inInterval subject _ => [subject]
  | inList subject values => subject :: values
  | between subject low high => [subject, low, high]
  | isNull subject _ => [subject]
  | column .. | literal .. | subquery _ | raw _ => []

/-- What an expression is, but for the expressions right below it. -/
inductive Head where
  | column (qualifier : Option String) (name : String)
  | literal (value : Value) (type : ColumnType)
  | binary (op : BinaryOp)
  | unary (op : UnaryOp)
  | call (kind : CallKind) (function : String) (label : Option String)
  | subquery (select : Select)
  | inInterval (interval : String)
  | inList
  | between
  | isNull (negated : Bool)
  | raw (sql : String)

def head : Expr → Head
  | column qualifier name => .column qualifier name
  | literal value type => .literal value type
  | binary op _ _ => .binary op
  | unary op _ => .unary op
  | call kind function _ label => .call kind function label
  | subquery select => .subquery select
  | inInterval _ interval => .inInterval interval
  | inList _ _ => .inList
  | between _ _ _ => .between
  | isNull _ negated => .isNull negated
  | raw sql => .raw sql

/-- The expression with a top and operands, if there are as many as it has. -/
def Head.expr? : Head → List Expr → Option Expr
  | .column qualifier name, [] => some (.column qualifier name)
  | .literal value type, [] => some (.literal value type)
  | .binary op, [left, right] => some (.binary op left right)
  | .unary op, [operand] => some (.unary op operand)
  | .call kind function label, args => some (.call kind function args label)
  | .subquery select, [] => some (.subquery select)
  | .inInterval interval, [subject] => some (.inInterval subject interval)
  | .inList, subject :: values => some (.inList subject values)
  | .between, [subject, low, high] => some (.between subject low high)
  | .isNull negated, [subject] => some (.isNull subject negated)
  | .raw sql, [] => some (.raw sql)
  | _, _ => none

theorem expr?_head_operands (e : Expr) : e.head.expr? e.operands = some e := by
  cases e <;> rfl

theorem ext_operands {e e' : Expr} (hhead : e.head = e'.head)
    (hoperands : e.operands = e'.operands) : e = e' := by
  have heq := expr?_head_operands e
  rw [hhead, hoperands, expr?_head_operands] at heq
  exact (Option.some.inj heq).symm

theorem sizeOf_operand_lt {operand e : Expr} (h : operand ∈ e.operands) :
    sizeOf operand < sizeOf e := by
  cases e with
  | call kind function args label =>
    have hlt : sizeOf operand < sizeOf args := List.sizeOf_lt_of_mem h
    simp
    omega
  | inList subject values =>
    rcases List.mem_cons.1 h with rfl | h
    · simp
      omega
    · have hlt := List.sizeOf_lt_of_mem h
      simp
      omega
  | column | literal | subquery | raw => cases h
  | _ =>
    simp only [operands, List.mem_cons, List.not_mem_nil, or_false] at h
    grind

/-! ### What stands at a place -/

def at? : List Nat → Expr → Option Expr
  | [], e => some e
  | i :: place, e => e.operands[i]?.bind (at? place)

def headAt? (place : List Nat) (e : Expr) : Option Head :=
  (e.at? place).map head

theorem headAt?_cons (i : Nat) (place : List Nat) (e : Expr) :
    e.headAt? (i :: place) = e.operands[i]?.bind (headAt? place) := by
  rw [headAt?, at?, Option.map_bind]
  rfl

/-- Expressions with the same at every place are the same. -/
theorem ext_headAt? (e e' : Expr) (h : ∀ place, e.headAt? place = e'.headAt? place) : e = e' := by
  refine ext_operands (Option.some.inj (h [])) (List.ext_getElem? fun i => ?_)
  -- An operand is missing where its top is, and its places are those that start with its number.
  have hplaces : ∀ place, e.operands[i]?.bind (headAt? place) =
      e'.operands[i]?.bind (headAt? place) := fun place => by
    rw [← headAt?_cons, ← headAt?_cons, h]
  match hoperand : e.operands[i]?, hoperand' : e'.operands[i]? with
  | none, none => rfl
  | some operand, some operand' =>
    have hmem : operand ∈ e.operands := List.mem_of_getElem? hoperand
    have hsame : ∀ place, operand.headAt? place = operand'.headAt? place := fun place => by
      simpa [hoperand, hoperand'] using hplaces place
    rw [ext_headAt? operand operand' hsame]
  | some _, none | none, some _ =>
    have htop := hplaces []
    rw [hoperand, hoperand'] at htop
    cases htop
termination_by sizeOf e
decreasing_by exact sizeOf_operand_lt hmem

/-! ### What qualifying does at a place -/

section

variable (qualifier : String) (owns : String → Bool)

/-- A bare column that is claimed gets the qualifier. -/
def Head.qualify : Head → Head
  | .column none name => .column (if owns name then some qualifier else none) name
  | h => h

theorem head_qualify (e : Expr) :
    (e.qualify qualifier owns).head = e.head.qualify qualifier owns := by
  cases e with
  | column existing name => cases existing <;> rfl
  | _ => rfl

theorem operands_qualify (e : Expr) :
    (e.qualify qualifier owns).operands = e.operands.map (qualify qualifier owns) := by
  cases e with
  | call kind function args label => exact qualifyAll_eq_map qualifier owns args
  | inList subject values => exact congrArg _ (qualifyAll_eq_map qualifier owns values)
  | _ => rfl

theorem at?_qualify (place : List Nat) (e : Expr) :
    (e.qualify qualifier owns).at? place = (e.at? place).map (qualify qualifier owns) := by
  induction place generalizing e with
  | nil => rfl
  | cons i place ih =>
    rw [at?, at?, operands_qualify, List.getElem?_map]
    cases e.operands[i]? with
    | none => rfl
    | some operand => exact ih operand

theorem headAt?_qualify (place : List Nat) (e : Expr) :
    (e.qualify qualifier owns).headAt? place =
      (e.headAt? place).map (Head.qualify qualifier owns) := by
  rw [headAt?, headAt?, at?_qualify, Option.map_map, Option.map_map]
  exact congrArg (Option.map · _) (funext (head_qualify qualifier owns))

theorem Head.qualify_of_forall_ne {h : Head} (hne : ∀ name, owns name → h ≠ .column none name) :
    h.qualify qualifier owns = h := by
  cases h with
  | column existing name =>
    cases existing with
    | none =>
      have hname : owns name = false := by
        rw [← Bool.not_eq_true]
        exact fun hname => hne name hname rfl
      rw [Head.qualify, if_neg (by rw [hname]; decide)]
    | some existing => rfl
  | _ => rfl

/-- At every place where a bare column stands that is claimed, the column has the qualifier
afterwards, and at every other place is what was there before. -/
structure QualifiesTo (before after : Expr) : Prop where
  claimed : ∀ place name, before.headAt? place = some (.column none name) → owns name →
    after.headAt? place = some (.column (some qualifier) name)
  kept : ∀ place, (∀ name, owns name → before.headAt? place ≠ some (.column none name)) →
    after.headAt? place = before.headAt? place

theorem qualifiesTo_qualify (e : Expr) :
    QualifiesTo qualifier owns e (e.qualify qualifier owns) where
  claimed place name hplace hname := by
    rw [headAt?_qualify, hplace, Option.map_some, Head.qualify, if_pos hname]
  kept place hplace := by
    rw [headAt?_qualify]
    cases hhead : e.headAt? place with
    | none => rfl
    | some h =>
      rw [Option.map_some, Head.qualify_of_forall_ne]
      rintro name hname rfl
      exact hplace name hname hhead

theorem QualifiesTo.unique {e after after' : Expr} (h : QualifiesTo qualifier owns e after)
    (h' : QualifiesTo qualifier owns e after') : after = after' := by
  apply ext_headAt?
  intro place
  by_cases hplace : ∃ name, owns name ∧ e.headAt? place = some (.column none name)
  · obtain ⟨name, hname, hhead⟩ := hplace
    rw [h.claimed place name hhead hname, h'.claimed place name hhead hname]
  · have hne : ∀ name, owns name → e.headAt? place ≠ some (.column none name) :=
      fun name hname hhead => hplace ⟨name, hname, hhead⟩
    rw [h.kept place hne, h'.kept place hne]

theorem qualify_qualify (second : String) (e : Expr) :
    (e.qualify qualifier owns).qualify second owns = e.qualify qualifier owns := by
  rw [qualify_eq_self_iff, references_qualify, List.forall_mem_map]
  exact fun reference _ => reference.kept_qualify qualifier owns

/-- Qualifying an expression changes the bare columns that are claimed, and nothing else. Done once
more, with whatever qualifier, it changes nothing. -/
theorem qualify_changes_only_claimed (e : Expr) :
    (∀ after, e.qualify qualifier owns = after ↔ QualifiesTo qualifier owns e after) ∧
    ∀ second, (e.qualify qualifier owns).qualify second owns = e.qualify qualifier owns := by
  refine ⟨fun after => ⟨?_, fun h => ?_⟩, fun second => qualify_qualify qualifier owns second e⟩
  · rintro rfl
    exact qualifiesTo_qualify qualifier owns e
  · exact (qualifiesTo_qualify qualifier owns e).unique qualifier owns h

end

end Expr
end SeriesSql
