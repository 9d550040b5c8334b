import Mathlib
import SeriesSql.Proofs.Builder.JoinOrder
import SeriesSql.Proofs.Builder.Update

/-!
# The condition that a run of calls builds

A call can replace the condition of a select or add one to it. However these calls are mixed with
others, the condition is the combination of those that were given since the last replacement, in the
order of the calls. Only the first join is left out, since it qualifies what the condition says.
-/

namespace SeriesSql

namespace Expr

theorem combine_eq_none_iff {connective : Connective} {exprs : List Expr} :
    combine connective exprs = none ↔ exprs = [] := by
  cases exprs <;> simp [combine]

/-- Conditions that are combined already can stand for themselves in a longer combination. -/
theorem combine_append {connective : Connective} {exprs : List Expr} (hexprs : exprs ≠ [])
    (more : List Expr) :
    ∃ combined, combine connective exprs = some combined ∧
      combine connective (exprs ++ more) = combine connective (combined :: more) := by
  obtain ⟨first, rest, rfl⟩ := List.exists_cons_of_ne_nil hexprs
  refine ⟨_, rfl, ?_⟩
  rw [List.cons_append, combine, combine, List.foldl_append]

theorem combine_and_concat (exprs : List Expr) (expr : Expr) :
    combine .and (exprs ++ [expr]) = some (conjoin (combine .and exprs) expr) := by
  rw [← UpdateBuilder.foldl_conjoin_none, ← UpdateBuilder.foldl_conjoin_none, List.foldl_append]
  rfl

theorem combine_toList (connective : Connective) (condition : Option Expr) :
    combine connective condition.toList = condition := by
  cases condition <;> rfl

end Expr

namespace SelectBuilder

/-- The condition that a call puts in the place of the one there was. -/
def Call.replacement? (columns : SourceColumns) : Call → Option Expr
  | whereWith build => some (build columns)
  | _ => none

/-- The condition that a call adds to the one there was. -/
def Call.addition? (columns : SourceColumns) : Call → Option Expr
  | andWhereWith build => some (build columns)
  | _ => none

/-- The conditions that count after a call, when some counted before it. -/
def Call.counted (columns : SourceColumns) (exprs : List Expr) (call : Call) : List Expr :=
  match call.replacement? columns with
  | some expr => [expr]
  | none => exprs ++ (call.addition? columns).toList

variable {b next : SelectBuilder}

/-! ### One call -/

/-- Whether the latest rows can be kept, and which they are, depends on the table and the keys. -/
theorem exists_latestOn_of_table (table : Option Table) (keys : List String) :
    ∃ latest : Except SqlError LatestOn, ∀ select,
      SelectBuilder.latestOn ⟨select, table⟩ keys =
        latest.map fun latest => ⟨{ select with latestOn := some latest }, table⟩ := by
  cases table with
  | none => exact ⟨.error (.validation .latestOnUnbound), fun _ => rfl⟩
  | some table => exact exists_latestOn table keys

theorem exists_latestOn_iff (htable : next.table = b.table) (keys : List String) :
    (∃ kept, next.latestOn keys = .ok kept) ↔ ∃ kept, b.latestOn keys = .ok kept := by
  obtain ⟨select, table⟩ := b
  obtain ⟨select', table'⟩ := next
  obtain rfl : table' = table := htable
  obtain ⟨latest, hlatest⟩ := exists_latestOn_of_table table' keys
  rw [hlatest, hlatest]
  cases latest with
  | error e => simp only [Except.map, reduceCtorEq]
  | ok latest => exact ⟨fun _ => ⟨_, rfl⟩, fun _ => ⟨_, rfl⟩⟩

theorem exists_apply_iff (call : Call) :
    (∃ next, call.apply b = .ok next) ↔
      ∀ keys, call = .latestOn keys → ∃ kept, b.latestOn keys = .ok kept := by
  cases call with
  | latestOn keys =>
    constructor
    · intro h other hother
      cases hother
      exact h
    · intro h
      exact h keys rfl
  | _ => exact ⟨fun _ keys => nofun, fun _ => ⟨_, rfl⟩⟩

/-- What a call that does not join leaves alone, and the condition that it leaves. -/
theorem Call.frame {call : Call} (h : call.apply b = .ok next) :
    next.table = b.table ∧ next.node.source = b.node.source ∧ next.node.joins = b.node.joins ∧
      ∀ exprs, b.node.condition = Expr.combine .and exprs →
        next.node.condition = Expr.combine .and (call.counted b.columns exprs) := by
  cases call with
  | whereWith build =>
    obtain rfl := Except.ok.inj h
    exact ⟨rfl, rfl, rfl, fun exprs _ => rfl⟩
  | andWhereWith build =>
    obtain rfl := Except.ok.inj h
    refine ⟨rfl, rfl, rfl, fun exprs hexprs => ?_⟩
    change some (Expr.conjoin b.node.condition (build b.columns)) = _
    rw [hexprs, ← Expr.combine_and_concat]
    rfl
  | latestOn keys =>
    obtain ⟨select, table⟩ := b
    obtain ⟨latest, hlatest⟩ := exists_latestOn_of_table table keys
    change SelectBuilder.latestOn ⟨select, table⟩ keys = _ at h
    rw [hlatest] at h
    cases latest with
    | error e => cases h
    | ok latest =>
      obtain rfl := Except.ok.inj h
      exact ⟨rfl, rfl, rfl, fun exprs hexprs => by simpa [counted, replacement?, addition?]⟩
  | columns names =>
    obtain rfl := Except.ok.inj h
    rw [projectColumns_eq]
    exact ⟨rfl, rfl, rfl, fun exprs hexprs => by simpa [counted, replacement?, addition?]⟩
  | groupBy names =>
    obtain rfl := Except.ok.inj h
    rw [groupByColumns_eq]
    exact ⟨rfl, rfl, rfl, fun exprs hexprs => by simpa [counted, replacement?, addition?]⟩
  | _ =>
    obtain rfl := Except.ok.inj h
    exact ⟨rfl, rfl, rfl, fun exprs hexprs => by simpa [counted, replacement?, addition?]⟩

theorem isQualified_apply {call : Call} (h : call.apply b = .ok next) :
    next.isQualified = b.isQualified := by
  obtain ⟨-, hsource, hjoins, -⟩ := Call.frame h
  rw [isQualified, isQualified, hsource, hjoins]

theorem columns_apply {call : Call} (h : call.apply b = .ok next) : next.columns = b.columns := by
  obtain ⟨htable, hsource, -, -⟩ := Call.frame h
  rw [columns, columns, isQualified_apply h, htable, hsource]

/-- A join leaves the condition and the columns alone, if the columns are qualified already. -/
theorem JoinCall.frame (call : JoinCall) (hqualified : b.isQualified) :
    (call.apply b).table = b.table ∧ (call.apply b).isQualified ∧
      (call.apply b).columns = b.columns ∧
      (call.apply b).node.condition = b.node.condition := by
  obtain ⟨added, hjoin⟩ : ∃ added, call.apply b =
      { b with node := { b.node with joins := b.node.joins ++ [added] } } := by
    rw [JoinCall.apply, join, qualified, if_pos hqualified]
    exact ⟨_, rfl⟩
  have hafter : (call.apply b).isQualified := by
    rw [hjoin, isQualified]
    simp
  refine ⟨by rw [hjoin], hafter, ?_, by rw [hjoin]⟩
  rw [columns, columns, hafter, hqualified, hjoin]

/-! ### A run of calls -/

theorem run_call (b : SelectBuilder) (call : Call) (steps : List (JoinCall ⊕ Call)) :
    b.run (.inr call :: steps) = (call.apply b).bind fun next => next.run steps :=
  rfl

variable {steps : List (JoinCall ⊕ Call)}

theorem isQualified_of_join {call : JoinCall}
    (hjoins : b.isQualified = false → (.inl call :: steps).filterMap Sum.getLeft? = []) :
    b.isQualified := by
  by_contra hbare
  exact absurd (hjoins (Bool.not_eq_true _ ▸ hbare)) (List.cons_ne_nil _ _)

/-- A run without a first join that qualifies is refused only for the latest rows that it asks
for. -/
theorem exists_run_iff (hjoins : b.isQualified = false → steps.filterMap Sum.getLeft? = []) :
    (∃ after, b.run steps = .ok after) ↔
      ∀ keys, .latestOn keys ∈ steps.filterMap Sum.getRight? →
        ∃ kept, b.latestOn keys = .ok kept := by
  induction steps generalizing b with
  | nil => exact ⟨fun _ keys => nofun, fun _ => ⟨b, rfl⟩⟩
  | cons step steps ih =>
    cases step with
    | inl call =>
      obtain ⟨htable, hafter, -, -⟩ := call.frame (isQualified_of_join hjoins)
      have hrest := @ih (call.apply b) fun h => absurd hafter (by simp [h])
      simp only [exists_latestOn_iff htable] at hrest
      exact hrest
    | inr call =>
      have hmem : ∀ keys, .latestOn keys ∈ (.inr call :: steps).filterMap Sum.getRight? ↔
          call = .latestOn keys ∨ .latestOn keys ∈ steps.filterMap Sum.getRight? := by
        intro keys
        simp [eq_comm]
      simp only [hmem, or_imp, forall_and, ← exists_apply_iff]
      cases happly : call.apply b with
      | error e =>
        constructor
        · intro ⟨after, h⟩
          rw [run_call, happly] at h
          cases h
        · intro ⟨⟨next, h⟩, _⟩
          cases h
      | ok next =>
        have hrest := @ih next fun h => hjoins (isQualified_apply happly ▸ h)
        simp only [exists_latestOn_iff (Call.frame happly).1] at hrest
        have hstep : b.run (.inr call :: steps) = next.run steps := by
          rw [run_call, happly]
          rfl
        rw [hstep, hrest]
        exact (and_iff_right ⟨next, rfl⟩).symm

/-- The conditions that count after a run are those that count after its calls that do not join. -/
theorem run_counted (hjoins : b.isQualified = false → steps.filterMap Sum.getLeft? = [])
    {after : SelectBuilder} (h : b.run steps = .ok after) {exprs : List Expr}
    (hexprs : b.node.condition = Expr.combine .and exprs) :
    after.node.condition = Expr.combine .and
      ((steps.filterMap Sum.getRight?).foldl (Call.counted b.columns) exprs) := by
  induction steps generalizing b exprs with
  | nil =>
    obtain rfl := Except.ok.inj h
    exact hexprs
  | cons step steps ih =>
    cases step with
    | inl call =>
      obtain ⟨-, hafter, hcolumns, hcondition⟩ := call.frame (isQualified_of_join hjoins)
      rw [← hcolumns]
      exact ih (fun hbare => absurd hafter (by simp [hbare])) h (hcondition.trans hexprs)
    | inr call =>
      rw [run_call] at h
      cases happly : call.apply b with
      | error e =>
        rw [happly] at h
        cases h
      | ok next =>
        rw [happly] at h
        obtain ⟨-, -, -, hcondition⟩ := Call.frame happly
        have hrest := ih (fun hbare => hjoins (isQualified_apply happly ▸ hbare)) h
          (hcondition exprs hexprs)
        rwa [columns_apply happly] at hrest

theorem foldl_counted {columns : SourceColumns} {calls : List Call}
    (hcalls : ∀ call ∈ calls, call.replacement? columns = none) (exprs : List Expr) :
    calls.foldl (Call.counted columns) exprs =
      exprs ++ calls.filterMap (Call.addition? columns) := by
  induction calls generalizing exprs with
  | nil => exact (List.append_nil exprs).symm
  | cons call calls ih =>
    obtain ⟨hcall, hrest⟩ := List.forall_mem_cons.1 hcalls
    rw [List.foldl_cons, ih hrest, Call.counted, hcall, List.append_assoc]
    cases h : call.addition? columns <;> simp [h]

/-- A run of calls in which no first join qualifies builds its condition from left to right. Only a
refused request for the latest rows ends it. After a call that replaces the condition, and others
that do not, the condition is the combination of the one given there and those added since, in
order. Without such a call it is the combination of those added, after the one there was. There is
no condition exactly if there is nothing to combine, and a combination may be combined further. -/
theorem run_conjoins_conditions
    (hjoins : b.isQualified = false → steps.filterMap Sum.getLeft? = []) :
    let calls := steps.filterMap Sum.getRight?
    ((∃ after, b.run steps = .ok after) ↔
        ∀ keys, .latestOn keys ∈ calls → ∃ kept, b.latestOn keys = .ok kept) ∧
      (∀ after, b.run steps = .ok after →
        (∀ before build later, calls = before ++ .whereWith build :: later →
          (∀ call ∈ later, call.replacement? b.columns = none) →
          after.node.condition = Expr.combine .and
            (build b.columns :: later.filterMap (Call.addition? b.columns))) ∧
        ((∀ call ∈ calls, call.replacement? b.columns = none) →
          after.node.condition = Expr.combine .and
            (b.node.condition.toList ++ calls.filterMap (Call.addition? b.columns)))) ∧
      (∀ exprs, Expr.combine .and exprs = none ↔ exprs = []) ∧
      ∀ exprs more, exprs ≠ [] → ∃ combined, Expr.combine .and exprs = some combined ∧
        Expr.combine .and (exprs ++ more) = Expr.combine .and (combined :: more) := by
  intro calls
  refine ⟨exists_run_iff hjoins, fun after h => ?_, fun exprs => Expr.combine_eq_none_iff,
    fun exprs more hexprs => Expr.combine_append hexprs more⟩
  have hcounted := run_counted hjoins h (Expr.combine_toList .and b.node.condition).symm
  constructor
  · intro before build later hcalls hlater
    change after.node.condition = Expr.combine .and (calls.foldl _ _) at hcounted
    rw [hcounted, hcalls, List.foldl_append, List.foldl_cons, foldl_counted hlater]
    rfl
  · intro hcalls
    rw [hcounted, foldl_counted hcalls]

/-- A replaced condition is forgotten, and another call in between changes nothing. -/
theorem run_conjoins_conditions_replaced :
    let b := ofName "t"
    let test (sql : String) : SourceColumns → Expr := fun _ => .raw sql
    let steps : List (JoinCall ⊕ Call) := [.inr (.andWhereWith (test "a")),
      .inr (.whereWith (test "b")), .inr .distinct, .inr (.andWhereWith (test "c"))]
    ∃ after, b.run steps = .ok after ∧
      after.node.condition = some (.binary .and (.raw "b") (.raw "c")) := by
  intro b test steps
  obtain ⟨hruns, hcondition, -, -⟩ := @run_conjoins_conditions b steps fun _ => rfl
  obtain ⟨after, hafter⟩ := hruns.2 fun keys hkeys => by simp [steps] at hkeys
  obtain ⟨hreplaced, -⟩ := hcondition after hafter
  refine ⟨after, hafter, hreplaced [.andWhereWith (test "a")] (test "b")
    [.distinct, .andWhereWith (test "c")] rfl ?_⟩
  intro call hcall
  simp only [List.mem_cons, List.not_mem_nil, or_false] at hcall
  obtain rfl | rfl := hcall <;> rfl

end SelectBuilder
end SeriesSql
