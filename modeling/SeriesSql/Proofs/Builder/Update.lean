import Mathlib
import SeriesSql.Builder.Update
import SeriesSql.Proofs.Check
import SeriesSql.Proofs.Schema.Validity
import SeriesSql.Proofs.Sql.Rendering

/-!
# Updates hold what was accepted

A caller makes one call after the other on a builder of updates. A call is refused for its column or
for its value, and by the table alone, so a refused call leaves no trace. What the statement sets
and which rows it changes can be read off the accepted calls. A value is looked at when it is set,
so only expressions that the caller made can keep the statement from being rendered.
-/

namespace SeriesSql.UpdateBuilder

/-- A call on a builder of updates. A condition may be built from the columns that the builder
hands out. -/
inductive Call where
  | set (name : String) (value : Value)
  | setExpr (name : String) (expr : Expr)
  | filter (condition : Expr)
  | filterWith (build : SourceColumns → Expr)
  | readFrom (source : Table) (label : String)

/-- What a builder answers to a call. -/
def attempt (b : UpdateBuilder) : Call → Except SqlError UpdateBuilder
  | .set name value => b.set name value
  | .setExpr name expr => b.setExpr name expr
  | .filter condition => .ok (b.filter condition)
  | .filterWith build => .ok (b.filter (build b.columns))
  | .readFrom source label => .ok (b.readFrom source label)

def after (b : UpdateBuilder) (call : Call) : UpdateBuilder :=
  (b.attempt call).toOption.getD b

def run (b : UpdateBuilder) (calls : List Call) : UpdateBuilder :=
  calls.foldl after b

/-- Whether a call goes with a table: a column that is set is one of the table's and not the
designated timestamp, and a value has a literal of the column's type. -/
def Call.fits (table : Table) : Call → Bool
  | set name value =>
    (table.column? name).any fun column =>
      !column.designated && (Literal.ofValue value column.type).isOk
  | setExpr name _ => (table.column? name).any fun column => !column.designated
  | filter _ | filterWith _ | readFrom .. => true

/-- The literal that a column is set to. It has the type that the table declares. -/
def assigned (table : Table) (name : String) (value : Value) : Expr :=
  .literal value (((table.column? name).map Column.type).getD value.inferredType)

def Call.assignment? (table : Table) : Call → Option Assignment
  | set name value => some ⟨name, assigned table name value⟩
  | setExpr name expr => some ⟨name, expr⟩
  | filter _ | filterWith _ | readFrom .. => none

/-- The condition that a call adds, built from the columns that the builder hands out. -/
def Call.condition? (columns : SourceColumns) : Call → Option Expr
  | filter condition => some condition
  | filterWith build => some (build columns)
  | set .. | setExpr .. | readFrom .. => none

/-- The conditions that calls add one after the other. -/
def conditions (b : UpdateBuilder) : List Call → List Expr
  | [] => []
  | call :: calls => (call.condition? b.columns).toList ++ conditions (b.after call) calls

/-! ### One call -/

theorem Call.fits_set_iff {table : Table} {name : String} {value : Value} :
    (set name value).fits table ↔
      ∃ column, table.column? name = some column ∧ column.designated = false ∧
        ∃ text, Literal.ofValue value column.type = .ok text := by
  simp only [fits, Option.any_eq_true, Bool.and_eq_true, Bool.not_eq_true',
    Check.isOk_iff]

theorem Call.fits_setExpr_iff {table : Table} {name : String} {expr : Expr} :
    (setExpr name expr).fits table ↔
      ∃ column, table.column? name = some column ∧ column.designated = false := by
  simp only [fits, Option.any_eq_true, Bool.not_eq_true']

def effect (b : UpdateBuilder) (call : Call) : UpdateBuilder :=
  match call with
  | .set name value => b.assign name (assigned b.table name value)
  | .setExpr name expr => b.assign name expr
  | .filter condition => b.filter condition
  | .filterWith build => b.filter (build b.columns)
  | .readFrom source label => b.readFrom source label

theorem assignable_eq_ok_iff {b : UpdateBuilder} {name : String} {column : Column} :
    b.assignable name = .ok column ↔
      b.table.column? name = some column ∧ column.designated = false := by
  rw [assignable]
  cases b.table.column? name with
  | none => exact ⟨nofun, nofun⟩
  | some found =>
    cases hdesignated : found.designated with
    | true =>
      simp only [hdesignated, if_true]
      refine ⟨nofun, ?_⟩
      rintro ⟨⟨⟩, hfalse⟩
      rw [hdesignated] at hfalse
      cases hfalse
    | false =>
      simp only [hdesignated, Bool.false_eq_true, if_false, Except.ok.injEq, Option.some_inj]
      constructor
      · rintro rfl
        exact ⟨rfl, hdesignated⟩
      · exact And.left

/-- A call is answered with its effect exactly if it fits. -/
theorem attempt_eq_ok_iff {b next : UpdateBuilder} {call : Call} :
    b.attempt call = .ok next ↔ call.fits b.table ∧ b.effect call = next := by
  cases call with
  | set name value =>
    change (b.assignable name >>= fun column =>
      discard (Literal.ofValue value column.type) >>= fun _ =>
        .ok (b.assign name (.literal value column.type))) = _ ↔ _
    simp only [Check.bind_eq_ok_iff, assignable_eq_ok_iff, Check.discard_eq_ok_iff, Call.fits_set_iff,
      effect, Except.ok.injEq]
    constructor
    · rintro ⟨column, ⟨hcolumn, hdesignated⟩, -, hliteral, rfl⟩
      exact ⟨⟨column, hcolumn, hdesignated, hliteral⟩, by rw [assigned, hcolumn]; rfl⟩
    · rintro ⟨⟨column, hcolumn, hdesignated, hliteral⟩, rfl⟩
      exact ⟨column, ⟨hcolumn, hdesignated⟩, (), hliteral, by rw [assigned, hcolumn]; rfl⟩
  | setExpr name expr =>
    change (discard (b.assignable name) >>= fun _ => .ok (b.assign name expr)) = _ ↔ _
    simp only [Check.bind_eq_ok_iff, assignable_eq_ok_iff, Check.discard_eq_ok_iff, Call.fits_setExpr_iff,
      effect, Except.ok.injEq]
    constructor
    · rintro ⟨-, hcolumn, rfl⟩
      exact ⟨hcolumn, rfl⟩
    · rintro ⟨hcolumn, rfl⟩
      exact ⟨(), hcolumn, rfl⟩
  | filter condition => simp [attempt, Call.fits, effect]
  | filterWith build => simp [attempt, Call.fits, effect]
  | readFrom source label => simp [attempt, Call.fits, effect]

theorem attempt_isOk_iff {b : UpdateBuilder} {call : Call} :
    (∃ next, b.attempt call = .ok next) ↔ call.fits b.table := by
  simp only [attempt_eq_ok_iff, exists_and_left, exists_eq', and_true]

theorem after_of_fits {b : UpdateBuilder} {call : Call} (h : call.fits b.table) :
    b.after call = b.effect call := by
  rw [after, attempt_eq_ok_iff.2 ⟨h, rfl⟩]
  rfl

theorem after_of_not_fits {b : UpdateBuilder} {call : Call} (h : call.fits b.table = false) :
    b.after call = b := by
  rw [after]
  cases hattempt : b.attempt call with
  | error e => rfl
  | ok next =>
    have hfits := (attempt_eq_ok_iff.1 hattempt).1
    rw [h] at hfits
    cases hfits

/-! ### A run of calls -/

@[simp] theorem table_effect (b : UpdateBuilder) (call : Call) :
    (b.effect call).table = b.table := by
  cases call <;> rfl

@[simp] theorem table_after (b : UpdateBuilder) (call : Call) : (b.after call).table = b.table := by
  cases h : call.fits b.table with
  | true => rw [after_of_fits h, table_effect]
  | false => rw [after_of_not_fits h]

theorem assignments_after (b : UpdateBuilder) (call : Call) :
    (b.after call).node.assignments =
      b.node.assignments ++
        ([call].filter (Call.fits b.table)).filterMap (Call.assignment? b.table) := by
  cases h : call.fits b.table with
  | true =>
    rw [after_of_fits h, List.filter_cons_of_pos h]
    cases call <;> simp [effect, assign, filter, readFrom, Call.assignment?]
  | false =>
    rw [after_of_not_fits h, List.filter_cons_of_neg (by simp [h])]
    simp

theorem condition_after (b : UpdateBuilder) (call : Call) :
    (b.after call).node.condition =
      (call.condition? b.columns).toList.foldl
        (fun condition expr => some (Expr.conjoin condition expr)) b.node.condition := by
  cases h : call.fits b.table with
  | true =>
    rw [after_of_fits h]
    cases call <;> rfl
  | false =>
    rw [after_of_not_fits h]
    cases call with
    | filter | filterWith | readFrom => cases h
    | _ => rfl

@[simp] theorem run_cons (b : UpdateBuilder) (call : Call) (calls : List Call) :
    b.run (call :: calls) = (b.after call).run calls :=
  rfl

/-- Refused calls leave no trace in a run. -/
theorem run_filter_fits (b : UpdateBuilder) (calls : List Call) :
    b.run (calls.filter (Call.fits b.table)) = b.run calls := by
  induction calls generalizing b with
  | nil => rfl
  | cons call calls ih =>
    have hrest := ih (b.after call)
    rw [table_after] at hrest
    cases h : call.fits b.table with
    | true => rw [List.filter_cons_of_pos h, run_cons, run_cons, hrest]
    | false =>
      rw [after_of_not_fits h] at hrest
      rw [List.filter_cons_of_neg (by simp [h]), run_cons, after_of_not_fits h, hrest]

theorem table_run (b : UpdateBuilder) (calls : List Call) : (b.run calls).table = b.table := by
  induction calls generalizing b with
  | nil => rfl
  | cons call calls ih => rw [run_cons, ih, table_after]

theorem assignments_run (b : UpdateBuilder) (calls : List Call) :
    (b.run calls).node.assignments =
      b.node.assignments ++
        (calls.filter (Call.fits b.table)).filterMap (Call.assignment? b.table) := by
  induction calls generalizing b with
  | nil => simp [run]
  | cons call calls ih =>
    rw [run_cons, ih, assignments_after, table_after, List.append_assoc, ← List.filterMap_append,
      ← List.filter_append, List.singleton_append]

theorem condition_run (b : UpdateBuilder) (calls : List Call) :
    (b.run calls).node.condition =
      (b.conditions calls).foldl (fun condition expr => some (Expr.conjoin condition expr))
        b.node.condition := by
  induction calls generalizing b with
  | nil => rfl
  | cons call calls ih => rw [run_cons, ih, condition_after, conditions, List.foldl_append]

theorem succeeds_source_after {b : UpdateBuilder} (call : Call)
    (h : ∀ source ∈ b.node.source, Writer.Succeeds source.write) :
    ∀ source ∈ (b.after call).node.source, Writer.Succeeds source.write := by
  cases hfits : call.fits b.table with
  | true =>
    rw [after_of_fits hfits]
    cases call with
    | readFrom source label =>
      rintro _ ⟨⟩
      rw [Source.write, Writer.succeeds_bind_iff]
      exact ⟨Writer.succeeds_emit _, Writer.succeeds_emit _⟩
    | _ => exact h
  | false => rwa [after_of_not_fits hfits]

theorem succeeds_source_run {b : UpdateBuilder} (calls : List Call)
    (h : ∀ source ∈ b.node.source, Writer.Succeeds source.write) :
    ∀ source ∈ (b.run calls).node.source, Writer.Succeeds source.write := by
  induction calls generalizing b with
  | nil => exact h
  | cons call calls ih => exact ih (succeeds_source_after call h)

/-! ### The statement -/

theorem foldl_conjoin_some (first : Expr) (rest : List Expr) :
    rest.foldl (fun condition expr => some (Expr.conjoin condition expr)) (some first) =
      some (rest.foldl (.binary .and) first) := by
  induction rest generalizing first with
  | nil => rfl
  | cons expr rest ih => exact ih (.binary .and first expr)

theorem foldl_conjoin_none (exprs : List Expr) :
    exprs.foldl (fun condition expr => some (Expr.conjoin condition expr)) none =
      Expr.combine .and exprs := by
  cases exprs with
  | nil => rfl
  | cons first rest => exact foldl_conjoin_some first rest

theorem succeeds_foldl_and_iff (first : Expr) (rest : List Expr) :
    Writer.Succeeds (rest.foldl (.binary .and) first).write ↔
      Writer.Succeeds first.write ∧ ∀ expr ∈ rest, Writer.Succeeds expr.write := by
  induction rest generalizing first with
  | nil => simp
  | cons expr rest ih =>
    rw [List.foldl_cons, ih, Expr.succeeds_write_binary_iff, List.forall_mem_cons, and_assoc]

theorem succeeds_combine_and_iff (exprs : List Expr) :
    (∀ condition ∈ Expr.combine .and exprs, Writer.Succeeds condition.write) ↔
      ∀ expr ∈ exprs, Writer.Succeeds expr.write := by
  cases exprs with
  | nil => exact ⟨fun _ => nofun, fun _ => nofun⟩
  | cons first rest =>
    rw [List.forall_mem_cons, ← succeeds_foldl_and_iff]
    exact ⟨fun h => h _ rfl, by rintro h _ ⟨⟩; exact h⟩

/-- A column that a call may set is the table's, and not its designated timestamp. -/
theorem column_of_fits {table : Table} {call : Call} {assignment : Assignment}
    (hfits : call.fits table) (h : call.assignment? table = some assignment) :
    (table.column? assignment.column).isSome ∧ table.timestamp? ≠ some assignment.column := by
  have hset : ∃ column, table.column? assignment.column = some column ∧
      column.designated = false := by
    cases call with
    | set name value =>
      obtain rfl := Option.some.inj h
      obtain ⟨column, hcolumn, hdesignated, -⟩ := Call.fits_set_iff.1 hfits
      exact ⟨column, hcolumn, hdesignated⟩
    | setExpr name expr =>
      obtain rfl := Option.some.inj h
      exact Call.fits_setExpr_iff.1 hfits
    | filter | filterWith | readFrom => cases h
  obtain ⟨column, hcolumn, hdesignated⟩ := hset
  exact ⟨by simp [hcolumn], Table.timestamp?_ne hcolumn hdesignated⟩

/-- A value that was accepted can be written. -/
theorem succeeds_write_of_fits {table : Table} {call : Call} {assignment : Assignment}
    (hfits : call.fits table) (h : call.assignment? table = some assignment)
    (hexpr : ∀ name expr, call = .setExpr name expr → Writer.Succeeds expr.write) :
    Writer.Succeeds assignment.expr.write := by
  cases call with
  | set name value =>
    obtain rfl := Option.some.inj h
    obtain ⟨column, hcolumn, -, text, htext⟩ := Call.fits_set_iff.1 hfits
    rw [assigned, hcolumn, Option.map_some, Option.getD_some, Expr.write]
    exact ⟨text, Writer.emits_emitResult_iff.2 htext⟩
  | setExpr name expr =>
    obtain rfl := Option.some.inj h
    exact hexpr name expr rfl
  | filter | filterWith | readFrom => cases h

/-- The statement of a run can be rendered when it sets something and the expressions that the
caller made can be. -/
theorem toSql_run_iff (table : Table) (calls : List Call) :
    (∃ sql, ((ofTable table).run calls).toSql = .ok sql) ↔
      (calls.filter (Call.fits table)).filterMap (Call.assignment? table) ≠ [] ∧
        (∀ name expr, .setExpr name expr ∈ calls.filter (Call.fits table) →
          ∃ text, expr.write.toSql = .ok text) ∧
        ∀ condition ∈ (ofTable table).conditions calls,
          ∃ text, condition.write.toSql = .ok text := by
  have hsucceeds : ∀ {w : Writer Unit} [Writer.Steady w],
      (∃ text, w.toSql = .ok text) ↔ Writer.Succeeds w :=
    exists_congr fun _ => Writer.toSql_eq_ok_iff
  have hsource := succeeds_source_run (b := ofTable table) calls nofun
  have hassignments : ((ofTable table).run calls).node.assignments =
      (calls.filter (Call.fits table)).filterMap (Call.assignment? table) :=
    assignments_run (ofTable table) calls
  have hcondition := (condition_run (ofTable table) calls).trans (foldl_conjoin_none _)
  simp only [toSql, hsucceeds, Update.succeeds_write_iff, hassignments, hcondition,
    succeeds_combine_and_iff]
  refine and_congr_right fun _ => ?_
  constructor
  · rintro ⟨hassigned, -, hconditions⟩
    refine ⟨fun name expr hmem => ?_, hconditions⟩
    exact hassigned ⟨name, expr⟩ (List.mem_filterMap.2 ⟨_, hmem, rfl⟩)
  · rintro ⟨hexprs, hconditions⟩
    refine ⟨fun assignment hmem => ?_, hsource, hconditions⟩
    obtain ⟨call, hcall, hassignment⟩ := List.mem_filterMap.1 hmem
    refine succeeds_write_of_fits (List.mem_filter.1 hcall).2 hassignment ?_
    rintro name expr rfl
    exact hexprs name expr hcall

/-- What becomes of calls that are made one after the other. A call is accepted exactly if it goes
with the table, and a refused one changes nothing, so the run is the one of the accepted calls. The
statement sets what they set, in their order, in columns of the table other than the designated
timestamp, and it has the conjunction of the conditions from left to right. It can be rendered
exactly if it sets something and every expression that the caller made for it can be; a value that
was accepted is never in the way. -/
theorem run_spec (table : Table) (calls : List Call) :
    let b := (ofTable table).run calls
    let accepted := calls.filter (Call.fits table)
    let conditions := (ofTable table).conditions calls
    (∀ call, ((∃ next, b.attempt call = .ok next) ↔ call.fits table) ∧
        ∀ e, b.attempt call = .error e → b.after call = b) ∧
      (ofTable table).run accepted = b ∧
      b.node.assignments = accepted.filterMap (Call.assignment? table) ∧
      (∀ assignment ∈ b.node.assignments,
        (table.column? assignment.column).isSome ∧
          table.timestamp? ≠ some assignment.column) ∧
      b.node.condition = Expr.combine .and conditions ∧
      ((∃ sql, b.toSql = .ok sql) ↔
        b.node.assignments ≠ [] ∧
          (∀ name expr, .setExpr name expr ∈ accepted → ∃ text, expr.write.toSql = .ok text) ∧
          ∀ condition ∈ conditions, ∃ text, condition.write.toSql = .ok text) := by
  intro b accepted conditions
  have hassignments : b.node.assignments = accepted.filterMap (Call.assignment? table) :=
    assignments_run (ofTable table) calls
  refine ⟨fun call => ⟨?_, fun e h => ?_⟩, run_filter_fits (ofTable table) calls, hassignments,
    fun assignment hmem => ?_, ?_, ?_⟩
  · have htable : b.table = table := table_run (ofTable table) calls
    rw [attempt_isOk_iff, htable]
  · rw [after, h]
    rfl
  · rw [hassignments] at hmem
    obtain ⟨call, hcall, hassignment⟩ := List.mem_filterMap.1 hmem
    exact column_of_fits (List.mem_filter.1 hcall).2 hassignment
  · exact (condition_run (ofTable table) calls).trans (foldl_conjoin_none conditions)
  · rw [hassignments]
    exact toSql_run_iff table calls

/-- Three assignments are refused, one for each reason, and the fourth one is rendered. -/
theorem run_spec_refused :
    let timestamp : Column := { Column.ofType .timestamp with designated := true }
    let table : Table :=
      { TableSettings.default with
        name := "readings", columns := .ofList [("ts", timestamp), ("kwh", .ofType .double)] }
    let refused : List Call :=
      [.set "missing" (.int 1), .set "ts" (.int 1), .set "kwh" (.text "a lot")]
    let calls := refused ++ [.set "kwh" (.int 0), .filter (.raw "kwh < 0")]
    refused.all (fun call => !call.fits table) ∧
      ((ofTable table).run calls).node.assignments = [⟨"kwh", .literal (.int 0) .double⟩] ∧
      ∃ sql, ((ofTable table).run calls).toSql = .ok sql := by
  intro timestamp table refused calls
  obtain ⟨-, -, hassignments, -, -, hrendered⟩ := run_spec table calls
  refine ⟨rfl, hassignments, hrendered.2 ⟨?_, ?_, ?_⟩⟩
  · rw [hassignments]
    exact List.cons_ne_nil _ _
  · intro name expr hmem
    have haccepted : calls.filter (Call.fits table) =
        [.set "kwh" (.int 0), .filter (.raw "kwh < 0")] := rfl
    rw [haccepted] at hmem
    simp at hmem
  · intro condition hmem
    obtain rfl := List.mem_singleton.1 hmem
    exact ⟨"kwh < 0", rfl⟩

end SeriesSql.UpdateBuilder
