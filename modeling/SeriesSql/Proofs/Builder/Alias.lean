import Mathlib
import SeriesSql.Proofs.Builder.JoinOrder
import SeriesSql.Proofs.Sql.Reference

/-!
# References to the labels of result columns

A sort key or a grouping may refer to a result column by its label. The label stands on the
projection or on the call that it projects. A join that qualifies the columns before it leaves a
reference bare if its name labels a projection. It does not look at the calls, so a reference to the
label of a call is qualified like a column wherever the builder takes the name for one, and a
builder of an unknown table takes every name for one.
-/

namespace SeriesSql

def Expr.label? : Expr → Option String
  | call _ _ _ label => label
  | _ => none

namespace Select

/-- The labels of the calls that the projections project. -/
def callLabels (select : Select) : List String :=
  select.projections.filterMap fun p => p.expr.label?

/-- The references of the grouping and of the sort keys. -/
def keyReferences (select : Select) : List Reference :=
  select.groupBy.flatMap Expr.references ++
    select.orderBy.flatMap fun item => item.expr.references

theorem keyReferences_qualify (qualifier : String) (owns : String → Bool) (select : Select) :
    (select.qualify qualifier owns).keyReferences =
      select.keyReferences.map
        (.qualify qualifier fun name => !select.labels.contains name && owns name) := by
  simp only [keyReferences, qualify, List.map_append, List.map_flatMap, List.flatMap_map,
    Expr.references_qualify]

end Select

namespace SelectBuilder

variable {b : SelectBuilder}

theorem keyReferences_qualified_of_isQualified (h : b.isQualified) :
    b.qualified.node.keyReferences = b.node.keyReferences := by
  rw [qualified, if_pos h]

theorem keyReferences_qualified_of_not_isQualified (h : b.isQualified = false) :
    b.qualified.node.keyReferences =
      b.node.keyReferences.map (.qualify b.node.source.qualifier fun name =>
        !b.node.labels.contains name && b.owns name) := by
  rw [qualified, if_neg (by simp [h]), Select.keyReferences_qualify]

theorem keyReferences_join (join : JoinCall) (b : SelectBuilder) :
    (join.apply b).node.keyReferences = b.qualified.node.keyReferences :=
  rfl

theorem length_keyReferences_join (join : JoinCall) (b : SelectBuilder) :
    (join.apply b).node.keyReferences.length = b.node.keyReferences.length := by
  rw [keyReferences_join]
  cases h : b.isQualified with
  | true => rw [keyReferences_qualified_of_isQualified h]
  | false => rw [keyReferences_qualified_of_not_isQualified h, List.length_map]

/-- A join keeps the references of the grouping and of the sort keys in their places. A bare one to
the label of a result column is qualified exactly if the label stands on projected calls only, the
builder takes it for a column of its source, and the columns are not qualified yet. -/
theorem join_qualifies_alias_iff (b : SelectBuilder) (join : JoinCall) :
    (join.apply b).node.keyReferences.length = b.node.keyReferences.length ∧
      ∀ (i : Nat) (name : String), name ∈ b.node.labels ∨ name ∈ b.node.callLabels →
        b.node.keyReferences[i]? = some ⟨none, name⟩ →
        (join.apply b).node.keyReferences[i]? =
          if name ∈ b.node.callLabels ∧ name ∉ b.node.labels ∧ b.owns name ∧
              b.isQualified = false then
            some ⟨some b.node.source.qualifier, name⟩
          else some ⟨none, name⟩ := by
  refine ⟨length_keyReferences_join join b, fun i name halias hkey => ?_⟩
  rw [keyReferences_join]
  cases hqualified : b.isQualified with
  | true =>
    rw [keyReferences_qualified_of_isQualified hqualified, hkey, if_neg (by simp)]
  | false =>
    rw [keyReferences_qualified_of_not_isQualified hqualified, List.getElem?_map, hkey,
      Option.map_some, Reference.qualify]
    by_cases hlabel : name ∈ b.node.labels
    · simp [hlabel]
    · have hcall := halias.resolve_left hlabel
      cases howns : b.owns name <;> simp [hlabel, hcall]

/-- A builder of an unknown table takes the label of an average for a column of the table, unless
the label stands on the projection. -/
theorem join_qualifies_alias_iff_unbound :
    let average : Option String → Expr := .call .aggregate "avg" [.column none "kwh"]
    let key : Expr := .column none "mean"
    let onCall := ((ofName "readings").project (average (some "mean")) none).orderBy key .desc
    let onProjection := ((ofName "readings").project (average none) (some "mean")).orderBy key .desc
    let prices : Table :=
      { TableSettings.default with
        name := "prices", columns := .ofList [("ts", .ofType .timestamp)] }
    let join : JoinCall := ⟨.cross, prices, "p", none, none⟩
    (join.apply onCall).node.keyReferences[0]? = some ⟨some "readings", "mean"⟩ ∧
      (join.apply onProjection).node.keyReferences[0]? = some ⟨none, "mean"⟩ ∧
      (join.apply onCall).toSql =
        .ok ("SELECT avg(readings.kwh) AS mean\nFROM readings\nCROSS JOIN prices p\n" ++
          "ORDER BY readings.mean DESC") := by
  intro average key onCall onProjection prices join
  have hcall : "mean" ∈ onCall.node.callLabels := List.mem_cons_self
  have hprojection : "mean" ∈ onProjection.node.labels := List.mem_cons_self
  refine ⟨?_, ?_, ?_⟩
  · rw [(join_qualifies_alias_iff onCall join).2 0 "mean" (.inr hcall) rfl]
    rfl
  · rw [(join_qualifies_alias_iff onProjection join).2 0 "mean" (.inl hprojection) rfl]
    rfl
  · simp only [join, onCall, average, key, prices]
    rfl

end SelectBuilder
end SeriesSql
