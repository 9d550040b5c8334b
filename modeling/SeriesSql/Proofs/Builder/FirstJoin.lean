import Mathlib
import SeriesSql.Proofs.Builder.JoinOrder
import SeriesSql.Proofs.Sql.Reference

/-!
# What the first join qualifies

Before the first join a builder of a table hands out bare columns, and the join qualifies those that
the projections and the condition refer to. It goes by names alone: a name that also labels a result
column is left bare everywhere, even where a reference can only mean the column of the table.
-/

namespace SeriesSql.SelectBuilder

/-- What the first join makes of a reference when result columns have some labels. -/
def joinedReference (table : Table) (labels : List String) : Reference → Reference :=
  .qualify table.name fun name => !labels.contains name && (table.column? name).isSome

variable {table : Table} {labels : List String}

theorem joinedReference_bare {name : String} (hname : (table.column? name).isSome) :
    joinedReference table labels ⟨none, name⟩ =
      if name ∈ labels then ⟨none, name⟩ else ⟨some table.name, name⟩ := by
  by_cases hlabel : name ∈ labels <;>
    simp [joinedReference, Reference.qualify, hname, hlabel]

/-- No reference is made bare. -/
theorem joinedReference_eq_bare {reference : Reference} {name : String}
    (h : joinedReference table labels reference = ⟨none, name⟩) : reference = ⟨none, name⟩ := by
  rw [joinedReference, Reference.qualify] at h
  split at h
  · cases h
  · exact h

theorem sourceReferences_qualifyBy (qualifier : String) (claims : String → Bool)
    (select : Select) :
    (qualifyBy qualifier claims select).sourceReferences =
      select.sourceReferences.map (.qualify qualifier claims) := by
  simp only [Select.sourceReferences, qualifyBy, List.map_append, List.map_flatMap,
    List.flatMap_map, Expr.references_qualify]
  cases select.condition <;> simp [Expr.references_qualify]

theorem outcome_calls (joins : List JoinCall) (calls more : List Call) :
    (outcome table joins calls).bind (fun b => b.run (more.map .inr)) =
      outcome table joins (calls ++ more) := by
  induction more generalizing calls with
  | nil =>
    rw [List.append_nil]
    cases outcome table joins calls <;> rfl
  | cons call more ih =>
    have hnext := ih (calls ++ [call])
    rw [← outcome_call, List.append_assoc, List.singleton_append] at hnext
    refine Eq.trans ?_ hnext
    cases outcome table joins calls <;> rfl

/-- A run that ends in its first join, taken apart. -/
theorem exists_before_join {calls : List Call} {join : JoinCall} {after : SelectBuilder}
    (h : (ofTable table).run (calls.map .inr ++ [.inl join]) = .ok after) :
    ∃ select, editAll ⟨some table, none⟩ calls (.ofSource (.table table.name none)) = .ok select ∧
      (ofTable table).run (calls.map .inr) = .ok ⟨{ select with joins := [] }, some table⟩ ∧
      after = join.apply ⟨{ select with joins := [] }, some table⟩ := by
  have hrun : (ofTable table).run (calls.map .inr) = outcome table [] calls :=
    outcome_calls [] [] calls
  have hsplit : (ofTable table).run (calls.map .inr ++ [.inl join]) =
      (outcome table [] calls).map fun b => join.apply b := by
    rw [run, List.foldlM_append]
    change ((ofTable table).run (calls.map .inr)).bind _ = _
    rw [hrun]
    cases outcome table [] calls <;> rfl
  rw [hsplit] at h
  rw [hrun]
  cases hselect : editAll ⟨some table, none⟩ calls (.ofSource (.table table.name none)) with
  | error e =>
    have houtcome : outcome table [] calls = .error e := by
      change (editAll ⟨some table, none⟩ calls _).map _ = _
      rw [hselect]
      rfl
    rw [houtcome] at h
    cases h
  | ok select =>
    have houtcome : outcome table [] calls = .ok ⟨{ select with joins := [] }, some table⟩ := by
      change (editAll ⟨some table, none⟩ calls _).map _ = _
      rw [hselect]
      rfl
    rw [houtcome] at h ⊢
    exact ⟨select, rfl, rfl, (Except.ok.inj h).symm⟩

/-- The references of a select do not depend on its joins. -/
theorem sourceReferences_joins (select : Select) (joins : List Join) :
    Select.sourceReferences { select with joins := joins } = select.sourceReferences :=
  rfl

theorem sourceReferences_join (join : JoinCall) (b : SelectBuilder) :
    (join.apply b).node.sourceReferences = b.qualified.node.sourceReferences :=
  rfl

/-- From a join on, the columns are handed out as they are to its predicate. -/
theorem columns_join (join : JoinCall) (b : SelectBuilder) :
    (join.apply b).columns = b.leftColumns := by
  have hqualified : (join.apply b).isQualified = true := by
    simp [isQualified, JoinCall.apply, SelectBuilder.join]
  rw [columns, hqualified, if_pos rfl, leftColumns]
  simp only [JoinCall.apply, SelectBuilder.join, qualified]
  split <;> rfl

/-- The first join on a builder of a table qualifies, among the references of the projections and
the condition, those to columns of the table that no result column is labelled like. So a column
that was handed out bare stays bare exactly when its name is also a label. -/
theorem first_join_qualifies_iff {calls : List Call} {join : JoinCall} {after : SelectBuilder}
    (h : (ofTable table).run (calls.map .inr ++ [.inl join]) = .ok after) :
    ∃ before, (ofTable table).run (calls.map .inr) = .ok before ∧
      before.columns = ⟨some table, none⟩ ∧
      after.columns = ⟨some table, some table.name⟩ ∧
      after.node.sourceReferences =
        before.node.sourceReferences.map (joinedReference table (calls.filterMap Call.label?)) ∧
      ∀ name, (table.column? name).isSome → ⟨none, name⟩ ∈ before.node.sourceReferences →
        (⟨none, name⟩ ∈ after.node.sourceReferences ↔ name ∈ calls.filterMap Call.label?) := by
  obtain ⟨select, hselect, hbefore, rfl⟩ := exists_before_join h
  have hsource := (editAll_frame rfl hselect).1
  have hreferences :
      (join.apply ⟨{ select with joins := [] }, some table⟩).node.sourceReferences =
        select.sourceReferences.map
          (joinedReference table (calls.filterMap Call.label?)) := by
    rw [sourceReferences_join, qualified_of_editAll hselect, sourceReferences_joins]
    exact sourceReferences_qualifyBy _ _ select
  refine ⟨_, hbefore, ?_, ?_, hreferences, ?_⟩
  · rw [columns, isQualified, hsource]
    rfl
  · rw [columns_join, leftColumns, hsource]
    rfl
  · intro name hname hmem
    rw [hreferences, List.mem_map]
    constructor
    · -- What is bare after the join was bare before it, and was passed over for its name.
      rintro ⟨reference, -, hbare⟩
      obtain rfl := joinedReference_eq_bare hbare
      rw [joinedReference_bare hname] at hbare
      by_contra hlabel
      rw [if_neg hlabel] at hbare
      cases hbare
    · intro hlabel
      exact ⟨_, hmem, by rw [joinedReference_bare hname, if_pos hlabel]⟩

/-- A column labelled by its own name stays bare if the join comes last, and is ambiguous in the
statement, but not if the join comes first. -/
theorem first_join_qualifies_iff_own_label :
    let table : Table :=
      { TableSettings.default with
        name := "trades", columns := .ofList [("ts", .ofType .timestamp)] }
    let label : Call := .columnAs "ts" "ts"
    let join : JoinCall := ⟨.cross, table, "other", none, none⟩
    (∃ before after, (ofTable table).run [.inr label] = .ok before ∧
        (ofTable table).run [.inr label, .inl join] = .ok after ∧
        ⟨none, "ts"⟩ ∈ before.node.sourceReferences ∧
        ⟨none, "ts"⟩ ∈ after.node.sourceReferences) ∧
      ((ofTable table).run [.inr label, .inl join]).bind toSql =
        .ok "SELECT ts AS ts\nFROM trades\nCROSS JOIN trades other" ∧
      ((ofTable table).run [.inl join, .inr label]).bind toSql =
        .ok "SELECT trades.ts AS ts\nFROM trades\nCROSS JOIN trades other" := by
  intro table label join
  have hafter : (ofTable table).run [.inr label, .inl join] =
      .ok (join.apply ((ofTable table).projectColumn "ts" (some "ts"))) := rfl
  obtain ⟨before, hbefore, -, -, -, hbare⟩ :=
    @first_join_qualifies_iff table [label] join _ hafter
  have hnode : before = (ofTable table).projectColumn "ts" (some "ts") :=
    (Except.ok.inj hbefore).symm
  have hmem : ⟨none, "ts"⟩ ∈ before.node.sourceReferences := by
    rw [hnode]
    exact List.mem_cons_self
  refine ⟨⟨before, _, hbefore, hafter, hmem, ?_⟩, ?_, ?_⟩
  · exact (hbare "ts" rfl hmem).2 List.mem_cons_self
  · simp only [table, label, join]
    rfl
  · simp only [table, label, join]
    rfl

end SeriesSql.SelectBuilder
