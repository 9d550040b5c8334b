import Mathlib
import SeriesSql.Proofs.Check
import SeriesSql.Proofs.Keyed
import SeriesSql.Schema.Table

/-!
# Which tables are valid

The checks of columns and tables are read as rules that the parts of a table satisfy. A table is
declared exactly when its parts satisfy all of them.
-/

namespace SeriesSql

open Check

/-! ### Columns -/

/-- A column whose metadata goes with its type. -/
structure Column.Valid (column : Column) : Prop where
  designated : column.designated → column.type = .timestamp ∨ column.type = .timestampNs
  symbol : column.symbol.isSome → column.type = .symbol
  geohashBits : ∀ bits ∈ column.geohashBits, column.type = .geohash ∧ 1 ≤ bits ∧ bits ≤ 60
  arrayElement : ∀ element ∈ column.arrayElement, column.type = .array ∧ element.isNumeric

theorem ColumnType.isTimestamp_iff {type : ColumnType} :
    type.isTimestamp ↔ type = .timestamp ∨ type = .timestampNs := by
  cases type <;> simp [isTimestamp]

theorem Column.check_eq_ok_iff {name : String} {column : Column} :
    column.check name = .ok () ↔ column.Valid := by
  have hrules : column.check name = .ok () ↔
      (column.designated → column.type.isTimestamp) ∧
      (column.symbol.isSome → column.type = .symbol) ∧
      (∀ bits ∈ column.geohashBits, column.type = .geohash ∧ 1 ≤ bits ∧ bits ≤ 60) ∧
      ∀ element ∈ column.arrayElement, column.type = .array ∧ element.isNumeric := by
    rw [check]
    cases column.geohashBits <;> cases column.arrayElement <;>
      simp [and_then_eq_ok_iff, refuseIf_eq_ok_iff, pure, Except.pure, and_assoc]
  rw [hrules, ColumnType.isTimestamp_iff]
  exact ⟨fun ⟨hdesignated, hsymbol, hbits, helement⟩ => ⟨hdesignated, hsymbol, hbits, helement⟩,
    fun h => ⟨h.designated, h.symbol, h.geohashBits, h.arrayElement⟩⟩

namespace Table

/-! ### Tables -/

structure Valid (name : String) (columns : List (String × Column)) (settings : TableSettings) :
    Prop where
  name_ne : name ≠ ""
  columns_ne : columns ≠ []
  column : ∀ column ∈ columns, column.2.Valid
  timestamps : columns.countP (fun column => column.2.designated) ≤ 1
  partitionBy : settings.partitionBy ≠ .none → ∃ column ∈ columns, column.2.designated
  wal : settings.wal = some true → settings.partitionBy ≠ .none
  dedupKeys : settings.dedupKeys ≠ [] →
    settings.dedupKeys.Nodup ∧ (∀ key ∈ settings.dedupKeys, key ∈ columns.map Prod.fst) ∧
      (∃ column ∈ columns, column.2.designated ∧ column.1 ∈ settings.dedupKeys) ∧
      settings.partitionBy ≠ .none ∧ settings.wal ≠ some false
  ttl : ∀ ttl ∈ settings.ttl, 0 < ttl.amount ∧ settings.partitionBy ≠ .none
  maxLag : ∀ lag ∈ settings.maxLag, Period.isPeriod lag.toList

variable {table : Table}

theorem isSome_column?_iff {name : String} :
    (table.column? name).isSome ↔ name ∈ table.columns.names :=
  table.columns.contains_iff_mem_names name

theorem isNone_column?_eq_false_iff {name : String} :
    (table.column? name).isNone = false ↔ name ∈ table.columns.names := by
  rw [← isSome_column?_iff, ← Option.not_isSome, Bool.not_eq_false']

theorem isPartitioned_iff : table.isPartitioned ↔ table.partitionBy ≠ .none := by
  simp [isPartitioned]

theorem length_timestamps :
    table.timestamps.length = table.columns.entries.countP fun column => column.2.designated := by
  rw [timestamps, List.length_map, List.countP_eq_length_filter]

theorem mem_timestamps {name : String} :
    name ∈ table.timestamps ↔
      ∃ column ∈ table.columns.entries, column.2.designated ∧ column.1 = name := by
  simp [timestamps]

/-- The only designated timestamp is the first one. -/
theorem mem_timestamp?_iff (hone : table.timestamps.length ≤ 1) {name : String} :
    name ∈ table.timestamp? ↔
      ∃ column ∈ table.columns.entries, column.2.designated ∧ column.1 = name := by
  rw [← mem_timestamps, timestamp?]
  match table.timestamps, hone with
  | [], _ => simp
  | [first], _ => simp [eq_comm]

/-- A column that is not designated is not the designated timestamp. -/
theorem timestamp?_ne {name : String} {column : Column}
    (hcolumn : table.column? name = some column) (hplain : column.designated = false) :
    table.timestamp? ≠ some name := by
  intro htimestamp
  obtain ⟨⟨_, other⟩, hentry, hother, rfl⟩ := mem_timestamps.1 (List.mem_of_mem_head? htimestamp)
  have hsame := Keyed.get?_eq_some_iff.2 hentry
  rw [← column?, hcolumn] at hsame
  obtain rfl := Option.some.inj hsame
  rw [hplain] at hother
  cases hother

theorem checkKeys_eq_ok_iff {before keys : List String} :
    table.checkKeys before keys = .ok () ↔
      keys.Nodup ∧ ∀ key ∈ keys, key ∈ table.columns.names ∧ key ∉ before := by
  induction keys generalizing before with
  | nil => simp [checkKeys]
  | cons key keys ih =>
    rw [checkKeys, and_then_eq_ok_iff, and_then_eq_ok_iff, refuseIf_eq_ok_iff, refuseIf_eq_ok_iff,
      ih, isNone_column?_eq_false_iff, List.nodup_cons, List.forall_mem_cons]
    simp only [List.contains_eq_mem, decide_eq_false_iff_not, List.mem_cons, not_or]
    constructor
    · rintro ⟨hmem, hnew, hnodup, hkeys⟩
      exact ⟨⟨fun h => (hkeys key h).2.1 rfl, hnodup⟩, ⟨hmem, hnew⟩,
        fun other h => ⟨(hkeys other h).1, (hkeys other h).2.2⟩⟩
    · rintro ⟨⟨hfresh, hnodup⟩, ⟨hmem, hnew⟩, hkeys⟩
      refine ⟨hmem, hnew, hnodup, fun other h => ⟨(hkeys other h).1, ?_, (hkeys other h).2⟩⟩
      rintro rfl
      exact hfresh h

theorem checkDedup_eq_ok_iff :
    table.checkDedup = .ok () ↔
      (table.dedupKeys ≠ [] →
        table.dedupKeys.Nodup ∧ (∀ key ∈ table.dedupKeys, key ∈ table.columns.names) ∧
          (∃ name ∈ table.timestamp?, name ∈ table.dedupKeys) ∧
          table.partitionBy ≠ .none ∧ table.wal ≠ some false) := by
  rw [checkDedup]
  by_cases hkeys : table.dedupKeys = []
  · simp [hkeys]
  · have htimestamp : (!table.timestamp?.any table.dedupKeys.contains) = false ↔
        ∃ name ∈ table.timestamp?, name ∈ table.dedupKeys := by
      cases table.timestamp? <;> simp
    have hstored : (table.wal == some false || !table.isPartitioned) = false ↔
        table.partitionBy ≠ .none ∧ table.wal ≠ some false := by
      rw [Bool.or_eq_false_iff, Bool.not_eq_false', isPartitioned_iff, beq_eq_false_iff_ne,
        and_comm]
    rw [if_neg (by simpa using hkeys), and_then_eq_ok_iff, and_then_eq_ok_iff, checkKeys_eq_ok_iff,
      refuseIf_eq_ok_iff, refuseIf_eq_ok_iff, htimestamp, hstored]
    simp [hkeys, and_assoc]

theorem check_eq_ok_iff :
    table.check = .ok () ↔ Valid table.name table.columns.entries table.toTableSettings := by
  have hcolumns : (∀ entry ∈ table.columns.entries, entry.2.check entry.1 = .ok ()) ↔
      ∀ entry ∈ table.columns.entries, entry.2.Valid :=
    forall₂_congr fun _ _ => Column.check_eq_ok_iff
  have hrules : table.check = .ok () ↔
      table.name ≠ "" ∧ table.columns.entries ≠ [] ∧
      (∀ entry ∈ table.columns.entries, entry.2.Valid) ∧ table.timestamps.length ≤ 1 ∧
      (table.partitionBy ≠ .none → table.timestamps ≠ []) ∧
      (table.wal = some true → table.partitionBy ≠ .none) ∧
      table.checkDedup = .ok () ∧
      (∀ ttl ∈ table.ttl, 0 < ttl.amount ∧ table.partitionBy ≠ .none) ∧
      ∀ lag ∈ table.maxLag, Period.isPeriod lag.toList := by
    rw [check, ← hcolumns]
    simp only [and_then_eq_ok_iff, refuseIf_eq_ok_iff, forM_eq_ok_iff]
    cases table.ttl <;>
      simp [-Option.forM_eq_forM, and_then_eq_ok_iff, refuseIf_eq_ok_iff, optionForM_eq_ok_iff,
        period_eq_ok_iff, isPartitioned, Nat.pos_iff_ne_zero, and_assoc]
  have hdesignated : table.timestamps ≠ [] ↔
      ∃ column ∈ table.columns.entries, column.2.designated := by
    simp [timestamps]
  rw [hrules, checkDedup_eq_ok_iff]
  constructor
  · rintro ⟨hname, hne, hcolumn, hone, hpartition, hwal, hdedup, httl, hlag⟩
    refine ⟨hname, hne, hcolumn, length_timestamps ▸ hone, fun h => hdesignated.1 (hpartition h),
      hwal, fun h => ?_, httl, hlag⟩
    obtain ⟨hnodup, hkeys, ⟨name, hname, hmem⟩, hstored⟩ := hdedup h
    obtain ⟨column, hcolumn, hdesignated, rfl⟩ := (mem_timestamp?_iff hone).1 hname
    exact ⟨hnodup, hkeys, ⟨column, hcolumn, hdesignated, hmem⟩, hstored⟩
  · intro hvalid
    -- The designated timestamp among the keys is the first one, as there is only one.
    have hone : table.timestamps.length ≤ 1 := length_timestamps ▸ hvalid.timestamps
    refine ⟨hvalid.name_ne, hvalid.columns_ne, hvalid.column, hone,
      fun h => hdesignated.2 (hvalid.partitionBy h), hvalid.wal, fun h => ?_, hvalid.ttl,
      hvalid.maxLag⟩
    obtain ⟨hnodup, hkeys, ⟨column, hcolumn, hdesignated, hmem⟩, hstored⟩ := hvalid.dedupKeys h
    have hfirst := (mem_timestamp?_iff hone).2 ⟨column, hcolumn, hdesignated, rfl⟩
    exact ⟨hnodup, hkeys, ⟨column.1, hfirst, hmem⟩, hstored⟩

/-! ### Declarations -/

section Declare

variable {name : String} {columns : List (String × Column)} {settings : TableSettings}
  (hnames : (columns.map Prod.fst).Nodup)

/-- The table of parts whose columns have distinct names. -/
def ofParts (name : String) (settings : TableSettings) (hnames : (columns.map Prod.fst).Nodup) :
    Table :=
  { settings with name, columns := ⟨columns, hnames⟩ }

theorem foldlM_addColumn (keyed : Keyed Column)
    (hnew : (keyed.names ++ columns.map Prod.fst).Nodup) :
    columns.foldlM (addColumn name) keyed =
      .ok (columns.foldl (fun keyed column => keyed.insert column.1 column.2) keyed) := by
  induction columns generalizing keyed with
  | nil => rfl
  | cons column columns ih =>
    have hfresh : column.1 ∉ keyed.names := by
      rw [List.map_cons, List.nodup_append] at hnew
      exact fun hmem => hnew.2.2 _ hmem _ List.mem_cons_self rfl
    have hadd : addColumn name keyed column = .ok (keyed.insert column.1 column.2) := by
      rw [addColumn, if_neg (mt (keyed.contains_iff_mem_names column.1).1 hfresh)]
    rw [List.foldlM_cons, hadd, List.foldl_cons]
    apply ih
    rwa [Keyed.names_insert, if_neg hfresh, List.append_assoc, List.singleton_append]

/-- Columns with distinct names are declared when they and the settings are valid. -/
theorem declare_eq_ok_iff {table : Table} :
    declare name columns settings = .ok table ↔
      Valid name columns settings ∧ table = ofParts name settings hnames := by
  have hcolumns : columns.foldlM (addColumn name) Keyed.empty = .ok ⟨columns, hnames⟩ := by
    rw [foldlM_addColumn .empty hnames, ← Keyed.ofList_of_nodup hnames, Keyed.ofList]
  have hvalid : (ofParts name settings hnames).check = .ok () ↔ Valid name columns settings :=
    check_eq_ok_iff
  rw [declare, hcolumns, ← hvalid, bind_eq_ok_iff]
  constructor
  · rintro ⟨_, hkeyed, h⟩
    obtain rfl := Except.ok.inj hkeyed
    obtain ⟨_, hcheck, h⟩ := bind_eq_ok_iff.1 h
    exact ⟨hcheck, (Except.ok.inj h).symm⟩
  · rintro ⟨hcheck, rfl⟩
    exact ⟨_, rfl, bind_eq_ok_iff.2 ⟨(), hcheck, rfl⟩⟩

end Declare

end Table
end SeriesSql
