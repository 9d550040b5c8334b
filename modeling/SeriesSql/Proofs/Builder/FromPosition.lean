import Mathlib
import SeriesSql.Proofs.Builder.JoinOrder
import SeriesSql.Proofs.Builder.Update
import SeriesSql.Proofs.Sql.Reference

/-!
# The place of the second table among the calls of an update

An expression is built from the columns that the builder hands out at that moment, which are
qualified from the call on that gives a second table. That call qualifies nothing that came before
it. So an update with the second table given last differs from the one with the table given first
exactly if an accepted call builds something else from bare columns than from qualified ones.
-/

namespace SeriesSql

namespace Update

/-- The references of an update outside nested selects. -/
def references (update : Update) : List Reference :=
  update.assignments.flatMap (fun assignment => assignment.expr.references) ++
    update.condition.toList.flatMap Expr.references

def qualify (qualifier : String) (owns : String → Bool) (update : Update) : Update :=
  { update with
    assignments := update.assignments.map fun assignment =>
      { assignment with expr := assignment.expr.qualify qualifier owns }
    condition := update.condition.map (Expr.qualify qualifier owns) }

theorem references_qualify (qualifier : String) (owns : String → Bool) (update : Update) :
    (update.qualify qualifier owns).references =
      update.references.map (Reference.qualify qualifier owns) := by
  cases hcondition : update.condition <;>
    simp [references, qualify, hcondition, List.map_flatMap, List.flatMap_map,
      Expr.references_qualify]

theorem qualify_eq_self_iff {qualifier : String} {owns : String → Bool} {update : Update} :
    update.qualify qualifier owns = update ↔
      ∀ reference ∈ update.references, reference.Kept owns := by
  obtain ⟨table, assignments, source, condition⟩ := update
  let requalify (assignment : Assignment) : Assignment :=
    { assignment with expr := assignment.expr.qualify qualifier owns }
  have hassignments : assignments.map requalify = assignments ↔
      ∀ assignment ∈ assignments, assignment.expr.qualify qualifier owns = assignment.expr := by
    have hmap := List.map_inj_left (l := assignments) (f := requalify) (g := id)
    rw [List.map_id] at hmap
    refine hmap.trans (forall₂_congr fun assignment _ => ?_)
    cases assignment
    simp [requalify]
  have hcondition : condition.map (Expr.qualify qualifier owns) = condition ↔
      ∀ expr ∈ condition.toList, expr.qualify qualifier owns = expr := by
    cases condition <;> simp
  simp only [qualify, mk.injEq, true_and, requalify] at hassignments ⊢
  simp only [hassignments, hcondition, Expr.qualify_eq_self_iff, references,
    List.forall_mem_append, List.forall_mem_flatMap]

end Update

namespace Expr

/-- Conditions of one number are conjoined to the same condition only if they are the same. -/
theorem combine_and_inj {exprs exprs' : List Expr} (hlength : exprs.length = exprs'.length) :
    combine .and exprs = combine .and exprs' ↔ exprs = exprs' := by
  have hfold : ∀ (rest rest' : List Expr) (first first' : Expr), rest.length = rest'.length →
      rest.foldl (binary .and) first = rest'.foldl (binary .and) first' →
        first = first' ∧ rest = rest' := by
    -- The first condition is kept general: each step moves the next one into it.
    intro rest
    induction rest with
    | nil =>
      intro rest' first first' hlength h
      obtain rfl := List.eq_nil_of_length_eq_zero hlength.symm
      exact ⟨h, rfl⟩
    | cons expr rest ih =>
      intro rest' first first' hlength h
      cases rest' with
      | nil => cases hlength
      | cons expr' rest' =>
        obtain ⟨hbinary, rfl⟩ := ih rest' _ _ (Nat.succ.inj hlength) h
        cases hbinary
        exact ⟨rfl, rfl⟩
  constructor
  · intro h
    match exprs, exprs' with
    | [], [] => rfl
    | [], _ :: _ => cases hlength
    | _ :: _, [] => cases hlength
    | first :: rest, first' :: rest' =>
      obtain ⟨rfl, rfl⟩ := hfold rest rest' first first' (Nat.succ.inj hlength) (Option.some.inj h)
      rfl
  · rintro rfl
    rfl

theorem combine_and_map_qualify (qualifier : String) (owns : String → Bool) (exprs : List Expr) :
    combine .and (exprs.map (qualify qualifier owns)) =
      (combine .and exprs).map (qualify qualifier owns) := by
  cases exprs with
  | nil => rfl
  | cons first rest =>
    have hfold : (rest.map (qualify qualifier owns)).foldl (binary .and)
        (first.qualify qualifier owns) =
          (rest.foldl (binary .and) first).qualify qualifier owns := by
      induction rest generalizing first with
      | nil => rfl
      | cons expr rest ih => exact ih (binary .and first expr)
    exact congrArg some hfold

end Expr

namespace UpdateBuilder

/-- A call whose expression is built from the columns that the builder hands out. -/
inductive ColumnCall where
  | setExpr (name : String) (build : SourceColumns → Expr)
  | filterWith (build : SourceColumns → Expr)

namespace ColumnCall

def build : ColumnCall → SourceColumns → Expr
  | setExpr _ build => build
  | filterWith build => build

def made (columns : SourceColumns) : ColumnCall → Call
  | setExpr name build => .setExpr name (build columns)
  | filterWith build => .filterWith build

/-- Whether a call goes with a table. This does not depend on the columns that it is handed. -/
def fits (table : Table) (call : ColumnCall) : Bool :=
  (call.made ⟨none, none⟩).fits table

theorem fits_made (table : Table) (columns : SourceColumns) (call : ColumnCall) :
    (call.made columns).fits table = call.fits table := by
  cases call <;> rfl

def assignment? (table : Table) : ColumnCall → Option (String × (SourceColumns → Expr))
  | setExpr name build => if (setExpr name build).fits table then some (name, build) else none
  | filterWith _ => none

def condition? : ColumnCall → Option (SourceColumns → Expr)
  | setExpr _ _ => none
  | filterWith build => some build

theorem snd_of_assignment? {table : Table} {call : ColumnCall}
    {entry : String × (SourceColumns → Expr)} (h : entry ∈ call.assignment? table) :
    entry.2 = call.build := by
  cases call with
  | setExpr name build =>
    simp only [assignment?, Option.mem_def, Option.ite_none_right_eq_some, Option.some_inj] at h
    rw [← h.2]
    rfl
  | filterWith build => cases h

theorem eq_of_condition? {call : ColumnCall} {build : SourceColumns → Expr}
    (h : build ∈ call.condition?) : build = call.build := by
  cases call with
  | setExpr name build => cases h
  | filterWith build => exact (Option.some.inj h).symm

end ColumnCall

/-- The builder after a call that is handed its columns. -/
def step (b : UpdateBuilder) (call : ColumnCall) : UpdateBuilder :=
  b.after (call.made b.columns)

/-- The builder after some calls, each of which is handed the columns of its moment. -/
def steps (b : UpdateBuilder) (calls : List ColumnCall) : UpdateBuilder :=
  calls.foldl step b

/-! ### What calls build -/

/-- What accepted calls set, from some columns. -/
def assignments (table : Table) (calls : List ColumnCall) (columns : SourceColumns) :
    List Assignment :=
  (calls.filterMap (ColumnCall.assignment? table)).map fun entry => ⟨entry.1, entry.2 columns⟩

def added (calls : List ColumnCall) (columns : SourceColumns) : List Expr :=
  (calls.filterMap ColumnCall.condition?).map (· columns)

/-- A call keeps what decides about the columns, and adds what it builds from them. -/
theorem step_eq (b : UpdateBuilder) (call : ColumnCall) :
    b.step call =
      { b with node := { b.node with
          assignments := b.node.assignments ++ assignments b.table [call] b.columns
          condition := (added [call] b.columns).foldl
            (fun condition expr => some (Expr.conjoin condition expr)) b.node.condition } } := by
  have hmade := call.fits_made b.table b.columns
  cases hfits : call.fits b.table with
  | true =>
    rw [step, after_of_fits (hmade.trans hfits)]
    cases call with
    | setExpr name build =>
      have hset : assignments b.table [.setExpr name build] b.columns =
          [⟨name, build b.columns⟩] := by
        simp [assignments, ColumnCall.assignment?, hfits]
      rw [hset]
      rfl
    | filterWith build =>
      have hset : assignments b.table [.filterWith build] b.columns = [] := rfl
      rw [hset, List.append_nil]
      rfl
  | false =>
    rw [step, after_of_not_fits (hmade.trans hfits)]
    cases call with
    | setExpr name build =>
      have hset : assignments b.table [.setExpr name build] b.columns = [] := by
        simp [assignments, ColumnCall.assignment?, hfits]
      rw [hset, List.append_nil]
      rfl
    | filterWith build => cases hfits

theorem columns_step (b : UpdateBuilder) (call : ColumnCall) :
    (b.step call).columns = b.columns := by
  rw [step_eq]
  rfl

theorem node_steps (b : UpdateBuilder) (calls : List ColumnCall) :
    (b.steps calls).node =
      { b.node with
        assignments := b.node.assignments ++ assignments b.table calls b.columns
        condition := (added calls b.columns).foldl
          (fun condition expr => some (Expr.conjoin condition expr)) b.node.condition } := by
  induction calls generalizing b with
  | nil => simp [steps, assignments, added]
  | cons call calls ih =>
    -- No call of this kind changes the columns, so all of them build from those of the start.
    have htable : (b.step call).table = b.table := by rw [step_eq]
    have hassignments : assignments b.table (call :: calls) b.columns =
        assignments b.table [call] b.columns ++ assignments b.table calls b.columns := by
      rw [assignments, ← List.singleton_append, List.filterMap_append, List.map_append]
      rfl
    have hadded : added (call :: calls) b.columns =
        added [call] b.columns ++ added calls b.columns := by
      rw [added, ← List.singleton_append, List.filterMap_append, List.map_append]
      rfl
    change ((b.step call).steps calls).node = _
    rw [ih, columns_step, htable, step_eq, hassignments, hadded, List.foldl_append,
      List.append_assoc]

section

variable (table source : Table) (label : String) (calls : List ColumnCall)

def builtFrom (columns : SourceColumns) : Update :=
  { table := table.name
    assignments := assignments table calls columns
    source := some (.table source.name (some label))
    condition := Expr.combine .and (added calls columns) }

theorem node_readFrom_steps :
    (((ofTable table).readFrom source label).steps calls).node =
      builtFrom table source label calls ⟨some table, some table.name⟩ := by
  rw [builtFrom, ← foldl_conjoin_none, node_steps]
  rfl

theorem node_steps_readFrom :
    (((ofTable table).steps calls).readFrom source label).node =
      builtFrom table source label calls ⟨some table, none⟩ := by
  rw [builtFrom, ← foldl_conjoin_none, readFrom, node_steps]
  rfl

variable {table source label calls}

theorem assignments_eq_iff {columns columns' : SourceColumns} :
    assignments table calls columns = assignments table calls columns' ↔
      ∀ call ∈ calls, ∀ entry ∈ call.assignment? table, entry.2 columns = entry.2 columns' := by
  rw [assignments, assignments, List.map_inj_left]
  simp only [List.mem_filterMap, Assignment.mk.injEq, true_and]
  exact ⟨fun h call hcall entry hentry => h entry ⟨call, hcall, hentry⟩,
    fun h entry ⟨call, hcall, hentry⟩ => h call hcall entry hentry⟩

theorem added_eq_iff {columns columns' : SourceColumns} :
    added calls columns = added calls columns' ↔
      ∀ call ∈ calls, ∀ build ∈ call.condition?, build columns = build columns' := by
  rw [added, added, List.map_inj_left]
  simp only [List.mem_filterMap]
  exact ⟨fun h call hcall build hbuild => h build ⟨call, hcall, hbuild⟩,
    fun h build ⟨call, hcall, hbuild⟩ => h call hcall build hbuild⟩

/-- An update is the same from some columns as from others if each accepted call builds the same
from them. -/
theorem builtFrom_eq_iff {columns columns' : SourceColumns} :
    builtFrom table source label calls columns = builtFrom table source label calls columns' ↔
      ∀ call ∈ calls, call.fits table → call.build columns = call.build columns' := by
  have hlength : (added calls columns).length = (added calls columns').length := by
    rw [added, added, List.length_map, List.length_map]
  have hcall : ∀ call : ColumnCall,
      (∀ entry ∈ call.assignment? table, entry.2 columns = entry.2 columns') ∧
        (∀ build ∈ call.condition?, build columns = build columns') ↔
      (call.fits table → call.build columns = call.build columns') := by
    intro call
    cases call with
    | setExpr name build => simp [ColumnCall.assignment?, ColumnCall.condition?, ColumnCall.build]
    | filterWith build =>
      have hfits : (ColumnCall.filterWith build).fits table := rfl
      simp [ColumnCall.assignment?, ColumnCall.condition?, ColumnCall.build, hfits]
  simp only [builtFrom, Update.mk.injEq, true_and, Expr.combine_and_inj hlength,
    assignments_eq_iff, added_eq_iff, ← forall₂_and, hcall]

/-- Building from qualified columns is building from bare ones and qualifying what is built. -/
theorem builtFrom_qualify
    (hwritten : ∀ call ∈ calls, SelectBuilder.Written table [] call.build) :
    builtFrom table source label calls ⟨some table, some table.name⟩ =
      (builtFrom table source label calls ⟨some table, none⟩).qualify table.name fun name =>
        (table.column? name).isSome := by
  have hclaims : SelectBuilder.Claims table [] fun name => (table.column? name).isSome :=
    ⟨fun name hname => hname.1, fun name hname => by rw [hname]; rfl⟩
  have hbuild : ∀ call ∈ calls, call.build ⟨some table, some table.name⟩ =
      (call.build ⟨some table, none⟩).qualify table.name fun name =>
        (table.column? name).isSome :=
    fun call hcall => ((hwritten call hcall).qualify hclaims).symm
  have hadded : added calls ⟨some table, some table.name⟩ =
      (added calls ⟨some table, none⟩).map
        (Expr.qualify table.name fun name => (table.column? name).isSome) := by
    rw [added, added, List.map_map]
    refine List.map_congr_left fun build hmem => ?_
    obtain ⟨call, hcall, hcondition⟩ := List.mem_filterMap.1 hmem
    rw [ColumnCall.eq_of_condition? hcondition]
    exact hbuild call hcall
  rw [builtFrom, builtFrom, Update.qualify, hadded, Expr.combine_and_map_qualify, assignments,
    assignments, List.map_map]
  congr 1
  refine List.map_congr_left fun entry hmem => ?_
  obtain ⟨call, hcall, hassignment⟩ := List.mem_filterMap.1 hmem
  rw [Function.comp_apply, ColumnCall.snd_of_assignment? hassignment, hbuild call hcall]

end

/-- Whether a second table is given before some calls or after them makes no difference exactly if
each accepted call builds the same expression from qualified columns as from bare ones. Calls that
take the columns of the table from the builder build expressions in which all of these columns are
qualified if the table is given first, and none if it is given last: the one update is the other
with its bare columns qualified, and they are the same exactly if none is bare. -/
theorem second_table_position_iff (table source : Table) (label : String)
    (calls : List ColumnCall) :
    let first := (((ofTable table).readFrom source label).steps calls).node
    let last := (((ofTable table).steps calls).readFrom source label).node
    let owns := fun name => (table.column? name).isSome
    (first = last ↔ ∀ call ∈ calls, call.fits table →
        call.build ⟨some table, some table.name⟩ = call.build ⟨some table, none⟩) ∧
      ((∀ call ∈ calls, SelectBuilder.Written table [] call.build) →
        first = last.qualify table.name owns ∧
          (first = last ↔ ∀ reference ∈ last.references, reference.Kept owns) ∧
          ∀ reference ∈ first.references, reference.Kept owns) := by
  intro first last owns
  have hfirst : first = _ := node_readFrom_steps table source label calls
  have hlast : last = _ := node_steps_readFrom table source label calls
  refine ⟨by rw [hfirst, hlast, builtFrom_eq_iff], fun hwritten => ?_⟩
  have hqualify : first = last.qualify table.name owns := by
    rw [hfirst, hlast, builtFrom_qualify hwritten]
  refine ⟨hqualify, ?_, ?_⟩
  · rw [hqualify, Update.qualify_eq_self_iff]
  · rw [hqualify, Update.references_qualify, List.forall_mem_map]
    exact fun reference _ => reference.kept_qualify table.name owns

/-- A condition on a column that both tables have. -/
theorem second_table_position_iff_shared :
    let readings : Table :=
      { TableSettings.default with
        name := "readings"
        columns := .ofList [("source", .ofType .symbol), ("kwh", .ofType .double)] }
    let corrections : Table :=
      { TableSettings.default with
        name := "corrections", columns := .ofList [("source", .ofType .symbol)] }
    let calls : List ColumnCall :=
      [.setExpr "kwh" fun _ => .literal (.int 0) .double,
        .filterWith fun columns => (columns.column "source").eq (.text "solar")]
    let first := ((ofTable readings).readFrom corrections "c").steps calls
    let last := ((ofTable readings).steps calls).readFrom corrections "c"
    first.node ≠ last.node ∧
      first.toSql = .ok ("UPDATE readings\nSET kwh = 0\nFROM corrections c\n" ++
        "WHERE (readings.source = 'solar')") ∧
      last.toSql = .ok ("UPDATE readings\nSET kwh = 0\nFROM corrections c\n" ++
        "WHERE (source = 'solar')") := by
  intro readings corrections calls first last
  have hwritten : ∀ call ∈ calls, SelectBuilder.Written readings [] call.build := by
    simp only [calls, List.forall_mem_cons]
    refine ⟨.literal _ _, ?_, nofun⟩
    exact .binary .eq (.own ⟨rfl, List.not_mem_nil⟩) (.ownLiteral "source" (.text "solar"))
  obtain ⟨-, hposition⟩ := second_table_position_iff readings corrections "c" calls
  obtain ⟨-, hsame, -⟩ := hposition hwritten
  refine ⟨fun h => ?_, ?_, ?_⟩
  · have hkept := hsame.1 h ⟨none, "source"⟩ List.mem_cons_self rfl
    cases hkept
  · simp only [first, readings, corrections, calls]
    rfl
  · simp only [last, readings, corrections, calls]
    rfl

end UpdateBuilder
end SeriesSql
