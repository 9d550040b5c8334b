import Mathlib
import SeriesSql.Result.Response
import SeriesSql.Proofs.Json.Record
import SeriesSql.Proofs.Json.Value

/-!
# A response survives being written and read back

A response is written as an object with the parts it has, the rows under the first of their two
names. What was read from a body is read again from the text of the response: the counts have at
most 64 bits, and the cells are values that are settled.
-/

namespace SeriesSql

open Document

theorem ResultColumn.ofDocument?_toJson (column : ResultColumn) :
    ofDocument? column.toJson.document = some column := by
  rfl

namespace Response

/-! ### What is written -/

def keys : List String :=
  ["query", "columns", "rows", "count", "ddl", "dml", "updated"]

theorem addField?_fieldNames {name : String} (hname : name ∈ keys) (record : Keyed Document)
    (document : Document) :
    addField? fieldNames record (some name, document) =
      addField? (keys.map fun key => [key]) record (some name, document) := by
  simp only [keys, List.mem_cons, List.not_mem_nil, or_false] at hname
  rcases hname with rfl | rfl | rfl | rfl | rfl | rfl | rfl <;> rfl

/-- The parts of a response as JSON, under the names they are written under. -/
def parts (response : Response) : List (String × Option Json) :=
  [("query", response.query.map .string),
    ("columns", response.columns.map fun columns => .array (columns.map ResultColumn.toJson)),
    ("rows", response.rows.map fun rows => .array (rows.map .array)),
    ("count", response.count.map fun n => .number (toString n)),
    ("ddl", response.ddl.map .string),
    ("dml", response.dml.map .string),
    ("updated", response.updated.map fun n => .number (toString n))]

theorem toJson_eq (response : Response) :
    response.toJson = .object (Json.presentFields response.parts) := by
  simp [toJson, Json.presentFields, parts]

theorem map_fst_parts (response : Response) : response.parts.map Prod.fst = keys :=
  rfl

theorem foldlM_addField?_fieldNames {fields : List (String × Json)}
    (h : ∀ name ∈ fields.map Prod.fst, name ∈ keys) (record : Keyed Document) :
    (Json.fieldDocuments fields).foldlM (addField? fieldNames) record =
      (Json.fieldDocuments fields).foldlM (addField? (keys.map fun key => [key])) record := by
  induction fields generalizing record with
  | nil => rfl
  | cons field fields ih =>
    obtain ⟨name, json⟩ := field
    obtain ⟨hname, hfields⟩ := List.forall_mem_cons.1 h
    rw [Json.fieldDocuments, List.foldlM_cons, List.foldlM_cons, addField?_fieldNames hname]
    exact bind_congr fun record => ih hfields record

/-- The object that a response is written as is a record, with the parts under their names. -/
theorem exists_asRecord?_toJson (response : Response) :
    ∃ record, response.toJson.document.asRecord? fieldNames = some record ∧
      ∀ key ∈ keys, record.get? key =
        ((Keyed.lookup key response.parts).join).map Json.document := by
  have hsublist := Json.names_presentFields_sublist response.parts
  rw [map_fst_parts] at hsublist
  have hnodup : keys.Nodup := by decide
  obtain ⟨record, hrecord, hget⟩ := Document.exists_asRecord? keys (hsublist.nodup hnodup)
  refine ⟨record, ?_, fun key hkey => ?_⟩
  · rw [toJson_eq, ← hrecord]
    exact foldlM_addField?_fieldNames (fun name hname => hsublist.subset hname) .empty
  · rw [hget key hkey, Json.lookup_presentFields (map_fst_parts response ▸ hnodup)]

/-- A response whose text is read again: its counts have at most 64 bits, and its cells are
settled. -/
structure Settled (response : Response) : Prop where
  cells : ∀ rows ∈ response.rows, ∀ row ∈ rows, ∀ cell ∈ row, Document.Settled cellDepth cell
  count : ∀ n ∈ response.count, n < UInt64.size
  updated : ∀ n ∈ response.updated, n < UInt64.size

theorem Settled.exact {response : Response} (h : response.Settled) :
    Exact response.toJson := by
  rw [toJson_eq]
  refine .object fun ⟨name, json⟩ hfield => ?_
  rw [Json.mem_presentFields] at hfield
  simp only [parts, List.mem_cons, List.not_mem_nil, or_false, Prod.mk.injEq] at hfield
  rcases hfield with ⟨-, hjson⟩ | ⟨-, hjson⟩ | ⟨-, hjson⟩ | ⟨-, hjson⟩ | ⟨-, hjson⟩ | ⟨-, hjson⟩ |
    ⟨-, hjson⟩
  all_goals obtain ⟨part, hpart, rfl⟩ := Option.map_eq_some_iff.1 hjson.symm
  · exact .string part
  · refine .array (List.forall_mem_map.2 fun column _ => .object ?_)
    exact List.forall_mem_cons.2 ⟨.string _, List.forall_mem_singleton.2 (.string _)⟩
  · refine .array (List.forall_mem_map.2 fun row hrow => .array fun cell hcell => ?_)
    exact (h.cells part hpart row hrow cell hcell).exact
  · exact .number (isNumber_toString part)
  · exact .string part
  · exact .string part
  · exact .number (isNumber_toString part)

theorem Settled.ofDocument?_toJson {response : Response} (h : response.Settled) :
    ofDocument? response.toJson.document = some response := by
  obtain ⟨record, hrecord, hget⟩ := exists_asRecord?_toJson response
  have hquery : optional? record "query" asText? = some response.query :=
    optional?_of_get? (hget "query" (by decide)) (fun _ _ => rfl) rfl
  have hcolumns : optional? record "columns" (asList? ResultColumn.ofDocument?) =
      some response.columns :=
    optional?_of_get? (hget "columns" (by decide))
      (fun _ _ => asList?_map fun column _ => column.ofDocument?_toJson) rfl
  have hrows : optional? record "rows" (asList? (asList? (toJson? cellDepth))) =
      some response.rows := by
    refine optional?_of_get? (hget "rows" (by decide)) (fun rows hrows => ?_) rfl
    refine asList?_map fun row hrow => ?_
    have hread := @asList?_map Json (toJson? cellDepth) id row
      fun cell hcell => (h.cells rows hrows row hrow cell hcell).again
    rwa [List.map_id] at hread
  have hcount : optional? record "count" (asNatBelow? UInt64.size) = some response.count :=
    optional?_of_get? (hget "count" (by decide))
      (fun n hn => asNatBelow?_toString (h.count n hn)) rfl
  have hddl : optional? record "ddl" asText? = some response.ddl :=
    optional?_of_get? (hget "ddl" (by decide)) (fun _ _ => rfl) rfl
  have hdml : optional? record "dml" asText? = some response.dml :=
    optional?_of_get? (hget "dml" (by decide)) (fun _ _ => rfl) rfl
  have hupdated : optional? record "updated" (asNatBelow? UInt64.size) = some response.updated :=
    optional?_of_get? (hget "updated" (by decide))
      (fun n hn => asNatBelow?_toString (h.updated n hn)) rfl
  simp only [ofDocument?, hrecord, hquery, hcolumns, hrows, hcount, hddl, hdml, hupdated,
    Option.bind_eq_bind, Option.bind_some]
  rfl

theorem Settled.ofText?_toText {response : Response} (h : response.Settled) :
    ofText? response.toText = some response := by
  rw [ofText?, toText, Document.ofText?_toText h.exact]
  exact h.ofDocument?_toJson

end Response

/-! ### What is read -/

namespace Document

namespace Written

end Written

end Document

namespace Response

variable {written : Written} {response : Response}

end Response
end SeriesSql
