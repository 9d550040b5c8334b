import Mathlib
import SeriesSql.Proofs.Schema.Definition

/-!
# Columns that come twice

A declaration looks for a name that came before while it collects the columns, and refuses it. The
reader of JSON puts the columns of an object into a keyed list, which has no place for a second
column of a name, and checks what is left. A definition with a repeated column is therefore read
when the last columns of each name make a valid table, and this is all the two routes differ in.
-/

namespace SeriesSql.Table

open Check

variable {name : String} {columns : List (String × Column)} {settings : TableSettings}

theorem addColumn_of_mem {keyed : Keyed Column} {column : String × Column}
    (hmem : column.1 ∈ keyed.names) :
    addColumn name keyed column = .error (.validation (.repeatedColumn name column.1)) := by
  rw [addColumn, if_pos ((keyed.contains_iff_mem_names column.1).2 hmem)]

theorem addColumn_of_notMem {keyed : Keyed Column} {column : String × Column}
    (hnew : column.1 ∉ keyed.names) :
    addColumn name keyed column = .ok (keyed.insert column.1 column.2) := by
  rw [addColumn, if_neg (mt (keyed.contains_iff_mem_names column.1).1 hnew)]

/-- Columns are collected up to the first whose name came before. -/
theorem foldlM_addColumn_repeated {keyed : Keyed Column}
    (hrepeated : ¬(keyed.names ++ columns.map Prod.fst).Nodup) :
    ∃ column ∈ columns, columns.foldlM (addColumn name) keyed =
      .error (.validation (.repeatedColumn name column.1)) := by
  induction columns generalizing keyed with
  | nil =>
    rw [List.map_nil, List.append_nil] at hrepeated
    exact absurd keyed.nodup hrepeated
  | cons column columns ih =>
    rw [List.foldlM_cons]
    by_cases hmem : column.1 ∈ keyed.names
    · exact ⟨column, List.mem_cons_self, by rw [addColumn_of_mem hmem]; rfl⟩
    · have hrest : ¬((keyed.insert column.1 column.2).names ++ columns.map Prod.fst).Nodup := by
        rwa [Keyed.names_insert, if_neg hmem, List.append_assoc, List.singleton_append]
      obtain ⟨repeated, hcolumn, herror⟩ := ih hrest
      rw [addColumn_of_notMem hmem]
      exact ⟨repeated, List.mem_cons_of_mem _ hcolumn, herror⟩

/-- A declaration refuses a name that comes twice, whatever else it holds. -/
theorem declare_repeated (hrepeated : ¬(columns.map Prod.fst).Nodup) :
    ∃ column ∈ columns,
      declare name columns settings = .error (.validation (.repeatedColumn name column.1)) := by
  obtain ⟨column, hmem, herror⟩ := @foldlM_addColumn_repeated name columns .empty hrepeated
  exact ⟨column, hmem, by rw [declare, herror]; rfl⟩

theorem exists_declare_iff :
    (∃ table, declare name columns settings = .ok table) ↔
      (columns.map Prod.fst).Nodup ∧ Valid name columns settings := by
  by_cases hnames : (columns.map Prod.fst).Nodup
  · simp only [declare_eq_ok_iff hnames, exists_and_left, exists_eq, and_true, hnames, true_and]
  · obtain ⟨column, -, herror⟩ := @declare_repeated name columns settings hnames
    simp [herror, hnames]

theorem exists_ofText?_iff {json : Json} (h : IsDefinition name columns settings json) :
    (∃ table, ofText? json.toText = .ok table) ↔
      Valid name (Keyed.ofList columns).entries settings := by
  simp only [ofText?_eq_ok_iff_merged h, exists_and_left, exists_eq, and_true]

/-- A declaration refuses every repeated column. Any JSON of the same parts is read as a declaration
of the last column of each name, in the place of the first, so that the two routes accept the same
parts except when a name is repeated and the merged parts are valid. There is such JSON when the
numbers fit into the bits they are stored in. -/
theorem repeated_column_read_iff (name : String) (columns : List (String × Column))
    (settings : TableSettings) :
    (¬(columns.map Prod.fst).Nodup → ∃ column ∈ columns,
        declare name columns settings = .error (.validation (.repeatedColumn name column.1))) ∧
      (∀ json, IsDefinition name columns settings json →
        (∀ table, ofText? json.toText = .ok table ↔
          declare name (Keyed.ofList columns).entries settings = .ok table) ∧
        (((∃ table, ofText? json.toText = .ok table) ↔
            ∃ table, declare name columns settings = .ok table) ↔
          ((columns.map Prod.fst).Nodup ∨
            ¬Valid name (Keyed.ofList columns).entries settings))) ∧
      ((∀ column ∈ columns, column.2.FitsWidths) → settings.FitsWidths →
        ∃ json, IsDefinition name columns settings json) := by
  refine ⟨declare_repeated, fun json hjson => ⟨fun table => ?_, ?_⟩, fun hcolumns hsettings => ?_⟩
  · rw [ofText?_eq_ok_iff_merged hjson, declare_eq_ok_iff (Keyed.ofList columns).nodup]
  · rw [exists_ofText?_iff hjson, exists_declare_iff]
    by_cases hnames : (columns.map Prod.fst).Nodup
    · simp [hnames, Keyed.ofList_of_nodup hnames]
    · simp [hnames]
  · exact ⟨_, isDefinition_partsToJson hcolumns hsettings⟩

/-- A table with a long and a double of one name is refused by the declaration, and read as a table
with the double alone. -/
theorem repeated_column_read_iff_double :
    let columns := [("v", Column.ofType .long), ("v", Column.ofType .double)]
    ¬(columns.map Prod.fst).Nodup ∧ ∃ json, IsDefinition "t" columns .default json ∧
      (∃ table, ofText? json.toText = .ok table ∧
        table.columns.entries = [("v", Column.ofType .double)]) ∧
      ¬∃ table, declare "t" columns .default = .ok table := by
  intro columns
  have hrepeated : ¬(columns.map Prod.fst).Nodup := by decide
  have hmerged : (Keyed.ofList columns).entries = [("v", Column.ofType .double)] := by decide
  have hvalid : Valid "t" (Keyed.ofList columns).entries .default := by
    rw [hmerged]
    exact
      { name_ne := by decide
        columns_ne := nofun
        column := by
          simp only [List.forall_mem_singleton]
          exact ⟨nofun, nofun, nofun, nofun⟩
        timestamps := by decide
        partitionBy := fun h => absurd rfl h
        wal := nofun
        dedupKeys := fun h => absurd rfl h
        ttl := nofun
        maxLag := nofun }
  have hcolumns : ∀ column ∈ columns, column.2.FitsWidths := by
    simp only [columns, List.forall_mem_cons]
    exact ⟨⟨nofun, nofun, nofun⟩, ⟨nofun, nofun, nofun⟩, by simp⟩
  obtain ⟨hdeclared, hread, hjson⟩ := repeated_column_read_iff "t" columns .default
  obtain ⟨json, hdefinition⟩ := hjson hcolumns ⟨nofun, nofun⟩
  obtain ⟨table, htable⟩ := (exists_ofText?_iff hdefinition).2 hvalid
  refine ⟨hrepeated, json, hdefinition, ⟨table, htable, ?_⟩, ?_⟩
  · obtain ⟨-, rfl⟩ := (ofText?_eq_ok_iff_merged hdefinition).1 htable
    exact hmerged
  · obtain ⟨column, -, herror⟩ := hdeclared hrepeated
    rintro ⟨table, htable⟩
    rw [herror] at htable
    cases htable

end SeriesSql.Table
