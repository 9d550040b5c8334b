import Mathlib
import SeriesSql.Proofs.Sql.WellFormed

/-!
# Fragments of statements

A fragment is whatever has a text of its own: a statement, one of its clauses, an expression. It can
be written behind any text. That text stays as it is, and what comes behind it does not depend on
it: the text that the fragment has on its own, or else something up to the error that it has on its
own. So a select that is nested in a fragment, at any depth, stands there in parentheses as it would
stand alone.
-/

namespace SeriesSql

open Writer

namespace Writer

theorem appendTo_succeeds_iff {w : Writer Unit} [hw : Steady w] (before : String) :
    (w.appendTo before).2 = none ↔ ∃ text, w.toSql = .ok text := by
  rcases hw.emits_or_stops with ⟨piece, hpiece⟩ | ⟨e, hstops⟩
  · rw [hpiece.appendTo_eq]
    exact iff_of_true rfl ⟨piece, toSql_eq_ok_iff.2 hpiece⟩
  · obtain ⟨more, hmore⟩ := hstops.exists_appendTo_eq
    rw [hmore, toSql_eq_error_iff.2 hstops]
    simp

/-! ### What a writer does around another one -/

variable {w inner : Writer Unit}

/-- Does what another writer does, between steps of its own that do the same to any text. -/
def Surrounds (w inner : Writer Unit) : Prop :=
  ∃ first last : Writer Unit, Steady first ∧ Steady last ∧ w = (do first; inner; last)

namespace Surrounds

theorem refl (w : Writer Unit) : Surrounds w w :=
  ⟨pure (), pure (), steady_pure, steady_pure, by simp⟩

theorem before (h : Surrounds w inner) {next : Unit → Writer Unit} (hnext : Steady (next ())) :
    Surrounds (w >>= next) inner := by
  obtain ⟨first, last, hfirst, hlast, rfl⟩ := h
  exact ⟨first, last >>= next, hfirst, steady_bind, by simp only [bind_assoc]⟩

theorem after {next : Unit → Writer Unit} (h : Surrounds (next ()) inner) (hw : Steady w) :
    Surrounds (w >>= next) inner := by
  obtain ⟨first, last, hfirst, hlast, heq⟩ := h
  have hnext : next = fun _ => (do first; inner; last) := funext fun _ => heq
  exact ⟨(do w; first), last, steady_bind, hlast, by simp only [hnext, bind_assoc]⟩

theorem trans {innermost : Writer Unit} (h : Surrounds w inner)
    (hinner : Surrounds inner innermost) : Surrounds w innermost := by
  obtain ⟨first, last, hfirst, hlast, rfl⟩ := h
  obtain ⟨first', last', hfirst', hlast', rfl⟩ := hinner
  exact ⟨(do first; first'), (do last'; last), steady_bind, steady_bind,
    by simp only [bind_assoc]⟩

end Surrounds

theorem MadeOf.surrounds {own : Prop} {parts : List (Writer Unit)} (h : MadeOf w own parts)
    {part : Writer Unit} (hpart : part ∈ parts) : Surrounds w part := by
  -- A part of the first step has the second one behind it, and the other way round.
  induction h with
  | done | text | error => cases hpart
  | part w =>
    obtain rfl := List.mem_singleton.1 hpart
    exact .refl part
  | bind hw hnext ihw ihnext =>
    rcases List.mem_append.1 hpart with hpart | hpart
    · exact (ihw hpart).before hnext.composed.steady
    · exact (ihnext hpart).after hw.composed.steady

end Writer

/-- The sort keys of a select are the clause of sort keys on a line of its own. -/
theorem OrderItem.writeList_line (items : List OrderItem) :
    (do emit "\nORDER BY "; OrderItem.writeList items) =
      (do emit "\n"; OrderItem.writeClause items) := by
  rw [OrderItem.writeClause, ← bind_assoc, ← emit_append]
  rfl

/-! ### Fragments -/

/-- A node of a select, the clause of sort keys, or what only statements that change rows have. -/
inductive Fragment where
  | node (node : Node)
  | orderBy (items : List OrderItem)
  | assignment (assignment : Assignment)
  | insert (insert : Insert)
  | update (update : Update)

namespace Fragment

def write : Fragment → Writer Unit
  | node n => n.write
  | orderBy items => OrderItem.writeClause items
  | assignment a => a.write
  | insert i => i.write
  | update u => u.write

def children : Fragment → List Fragment
  | node n => n.children.map node
  | orderBy items => items.map fun item => node (.orderItem item)
  | assignment a => [node (.expr a.expr)]
  | insert _ => []
  | update u =>
    u.assignments.map assignment ++ u.source.toList.map (fun s => node (.source s)) ++
      u.condition.toList.map fun e => node (.expr e)

/-- A fragment of the tree below a fragment, or the fragment itself. -/
inductive Contains (root : Fragment) : Fragment → Prop where
  | root : Contains root root
  | child {f child : Fragment} : Contains root f → child ∈ f.children → Contains root child

/-- A select is an operand or a source somewhere in a fragment. -/
def Nests (f : Fragment) (s : Select) : Prop :=
  f.Contains (node (.expr (.subquery s))) ∨
    ∃ label, f.Contains (node (.source (.select s label)))

instance steady_write (f : Fragment) : Steady f.write := by
  cases f with
  | node n => exact n.composed.steady
  | orderBy items => exact steady_bind
  | assignment a => exact a.steady_write
  | insert i => exact i.steady_write
  | update u => exact u.steady_write

theorem surrounds_of_mem_children {f child : Fragment} (h : child ∈ f.children) :
    Surrounds f.write child.write := by
  have hmem : child.write ∈ f.children.map write := List.mem_map_of_mem h
  cases f with
  | node n =>
    rw [children, List.map_map] at hmem
    exact n.madeOf.surrounds hmem
  | orderBy items =>
    rw [children, List.map_map] at hmem
    rw [write, OrderItem.writeClause, OrderItem.writeList_eq]
    exact ((MadeOf.text _).bind (madeOf_separated _ OrderItem.write items)).surrounds hmem
  | assignment a =>
    rw [write, Assignment.write]
    exact ((MadeOf.text _).bind (MadeOf.part a.expr.write)).surrounds hmem
  | insert i => cases h
  | update u =>
    simp only [children, List.map_append, List.map_map, List.append_assoc] at hmem
    rw [write, Update.write]
    refine ((madeOf_require _).bind <| (MadeOf.text _).bind <|
      (madeOf_separated _ Assignment.write u.assignments).bind <|
      (madeOf_emitClause _ u.source Source.write).bind
      (Node.madeOf_writeOptional _ u.condition)).surrounds ?_
    rw [List.map_map]
    exact hmem

theorem surrounds_of_contains {root f : Fragment} (h : root.Contains f) :
    Surrounds root.write f.write := by
  induction h with
  | root => exact .refl _
  | child _ hmem ih => exact ih.trans (surrounds_of_mem_children hmem)

/-- Around a nested select there are parentheses. -/
theorem surrounds_of_nests {f : Fragment} {s : Select} (h : f.Nests s) :
    Surrounds f.write (do emit "("; s.write; emit ")") := by
  rcases h with h | ⟨label, h⟩
  · have hexpr := surrounds_of_contains h
    rwa [write, Node.write, Expr.write] at hexpr
  · -- The closing parenthesis of a source is written in one piece with the label.
    have hclose : emit (") " ++ Token.name label) =
        (do emit ")"; emit (" " ++ Token.name label)) := by
      rw [← emit_append, ← String.append_assoc]
      rfl
    have hsource := surrounds_of_contains h
    rw [write, Node.write, Source.write, hclose] at hsource
    refine hsource.trans ⟨pure (), emit (" " ++ Token.name label), steady_pure, steady_emit _, ?_⟩
    simp only [pure_bind, bind_assoc]

/-- Behind any text a fragment is written as it is on its own: it adds the same text, or it stops at
the same error after adding the same part of a text. A select nested in it is written as it is on
its own, between two parentheses. -/
theorem written_after_any_text (f : Fragment) :
    (∀ before, (f.write.appendTo before).2 = none ↔ ∃ text, f.write.toSql = .ok text) ∧
    (∀ text, f.write.toSql = .ok text →
      ∀ before, f.write.appendTo before = (before ++ text, none)) ∧
    (∀ e, f.write.toSql = .error e →
      ∃ more, ∀ before, f.write.appendTo before = (before ++ more, some e)) ∧
    ∀ s, f.Nests s → ∃ first last : Writer Unit, Steady first ∧ Steady last ∧
      f.write = (do first; emit "("; s.write; emit ")"; last) ∧
      ∀ text, f.write.toSql = .ok text → ∃ before inner after,
        first.toSql = .ok before ∧ s.write.toSql = .ok inner ∧ last.toSql = .ok after ∧
          text = before ++ "(" ++ inner ++ ")" ++ after := by
  refine ⟨appendTo_succeeds_iff, fun text htext before => ?_, fun e he => ?_, fun s hs => ?_⟩
  · exact (toSql_eq_ok_iff.1 htext).appendTo_eq before
  · exact (toSql_eq_error_iff.1 he).exists_appendTo_eq
  · obtain ⟨first, last, hfirst, hlast, heq⟩ := surrounds_of_nests hs
    simp only [bind_assoc] at heq
    refine ⟨first, last, hfirst, hlast, heq, fun text htext => ?_⟩
    rw [heq, toSql_eq_ok_iff] at htext
    simp only [emits_bind_iff, emits_emit_iff] at htext
    obtain ⟨before, _, rfl, hbefore, _, _, rfl, rfl, inner, _, rfl, hinner, _, after, rfl, rfl,
      hafter⟩ := htext
    exact ⟨before, inner, after, toSql_eq_ok_iff.2 hbefore, toSql_eq_ok_iff.2 hinner,
      toSql_eq_ok_iff.2 hafter, by simp only [String.append_assoc]⟩

/-- A select in an assignment, and a clause that stops at its second key after writing the first. -/
theorem written_after_any_text_nested :
    let nested := Select.ofSource (.table "u" none)
    let outer := update ⟨"t", [⟨"a", .subquery nested⟩], none, none⟩
    let text := "UPDATE t\nSET a = (SELECT *\nFROM u)"
    let broken := orderBy [⟨.column none "a", .asc⟩, ⟨.inList (.column none "b") [], .desc⟩]
    let e := SqlError.validation .emptyInList
    outer.write.toSql = .ok text ∧ outer.Nests nested ∧ broken.write.toSql = .error e ∧
      outer.write.appendTo "EXPLAIN " = ("EXPLAIN " ++ text, none) ∧
      (∃ before inner after, nested.write.toSql = .ok inner ∧
        text = before ++ "(" ++ inner ++ ")" ++ after) ∧
      (∃ more, ∀ before, broken.write.appendTo before = (before ++ more, some e)) ∧
      broken.write.appendTo "\n" = ("\nORDER BY a ASC, ", some e) := by
  intro nested outer text broken e
  have htext : outer.write.toSql = .ok text := by
    simp only [outer, nested, text]
    cbv
  have hbroken : broken.write.toSql = .error e := rfl
  have hset : outer.Contains (assignment ⟨"a", .subquery nested⟩) :=
    .child .root List.mem_cons_self
  have hnests : outer.Nests nested := .inl (.child hset List.mem_cons_self)
  obtain ⟨-, hkept, -, hinside⟩ := written_after_any_text outer
  obtain ⟨-, -, hstopped, -⟩ := written_after_any_text broken
  obtain ⟨first, last, -, -, -, hshown⟩ := hinside nested hnests
  obtain ⟨before, inner, after, -, hinner, -, heq⟩ := hshown text htext
  have hleft : broken.write.appendTo "\n" = ("\nORDER BY a ASC, ", some e) := rfl
  exact ⟨htext, hnests, hbroken, hkept text htext "EXPLAIN ", ⟨before, inner, after, hinner, heq⟩,
    hstopped e hbroken, hleft⟩

end Fragment
end SeriesSql
