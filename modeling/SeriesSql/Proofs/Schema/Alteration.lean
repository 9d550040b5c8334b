import Mathlib
import SeriesSql.Proofs.Schema.Validity
import SeriesSql.Schema.Operation

/-!
# Altered tables

An alteration is checked against the table before it is rendered, and the table it leaves is not
checked at all. What the check lets through is read as a rule for each alteration, and each rule is
held against the rules of a valid table. They suffice for every alteration but one: the last column
of a table can be dropped.
-/

namespace SeriesSql

open Check

/-! ### What an alteration leaves -/

def renamed (old new name : String) : String :=
  if name = old then new else name

namespace Alteration

def columns (columns : List (String × Column)) : Alteration → List (String × Column)
  | addColumn name column => columns ++ [(name, column)]
  | dropColumn name => columns.filter fun column => column.1 ≠ name
  | renameColumn old new => columns.map fun column => (renamed old new column.1, column.2)
  | setTtl _ => columns
  | setMaxUncommittedRows _ => columns
  | setMaxLag _ => columns
  | partitions _ _ => columns
  | squashPartitions => columns
  | resumeWal _ => columns

/-- The settings that an alteration leaves. A deduplication key goes with its column. -/
def settings (settings : TableSettings) : Alteration → TableSettings
  | addColumn _ _ => settings
  | dropColumn name => { settings with dedupKeys := settings.dedupKeys.filter (· ≠ name) }
  | renameColumn old new => { settings with dedupKeys := settings.dedupKeys.map (renamed old new) }
  | setTtl ttl => { settings with ttl := some ttl }
  | setMaxUncommittedRows rows => { settings with maxUncommittedRows := some rows }
  | setMaxLag lag => { settings with maxLag := some lag }
  | partitions _ _ => settings
  | squashPartitions => settings
  | resumeWal _ => settings

end Alteration

def Table.altered (table : Table) (alteration : Alteration) : Table :=
  { alteration.settings table.toTableSettings with
    name := table.name
    columns := .ofList (alteration.columns table.columns.entries) }

/-! ### What is let through -/

namespace Alteration

variable {table : Table}

/-- What a table has to be like for an alteration of it. -/
def Allowed (table : Table) : Alteration → Prop
  | addColumn name column => ¬column.designated ∧ name ∉ table.columns.names ∧ column.Valid
  | dropColumn name => table.timestamp? ≠ some name ∧ name ∈ table.columns.names
  | renameColumn old new => old ∈ table.columns.names ∧ new ∉ table.columns.names
  | setTtl ttl => 0 < ttl.amount ∧ table.partitionBy ≠ .none
  | setMaxUncommittedRows _ => True
  | setMaxLag lag => Period.isPeriod lag.toList
  | partitions _ names => names ≠ [] ∧ table.partitionBy ≠ .none
  | squashPartitions => True
  | resumeWal _ => table.wal ≠ some false

theorem check_eq_ok_iff {alteration : Alteration} :
    alteration.check table = .ok () ↔ alteration.Allowed table := by
  have hpartitioned : (!table.isPartitioned) = false ↔ table.partitionBy ≠ .none := by
    rw [Bool.not_eq_false', Table.isPartitioned_iff]
  have hnew : ∀ name, (table.column? name).isSome = false ↔ name ∉ table.columns.names :=
    fun name => by rw [← Table.isSome_column?_iff, Bool.not_eq_true]
  cases alteration with
  | addColumn name column =>
    simp only [check, and_then_eq_ok_iff, refuseIf_eq_ok_iff, hnew, Column.check_eq_ok_iff,
      Allowed, Bool.not_eq_true]
  | dropColumn name =>
    simp only [check, and_then_eq_ok_iff, refuseIf_eq_ok_iff, beq_eq_false_iff_ne,
      Table.isNone_column?_eq_false_iff, Allowed]
  | renameColumn old new =>
    simp only [check, and_then_eq_ok_iff, refuseIf_eq_ok_iff, Table.isNone_column?_eq_false_iff,
      hnew, Allowed]
  | setTtl ttl =>
    simp only [check, and_then_eq_ok_iff, refuseIf_eq_ok_iff, beq_eq_false_iff_ne, hpartitioned,
      Allowed, Nat.pos_iff_ne_zero]
  | setMaxUncommittedRows rows => simp only [check, Allowed]
  | setMaxLag lag => exact period_eq_ok_iff
  | partitions action names =>
    simp only [check, and_then_eq_ok_iff, refuseIf_eq_ok_iff, hpartitioned, Allowed,
      List.isEmpty_eq_false_iff]
  | squashPartitions => simp only [check, Allowed]
  | resumeWal fromTxn =>
    simp only [check, refuseIf_eq_ok_iff, beq_eq_false_iff_ne, Allowed]

theorem allowed_of_toSql {alteration : Alteration} {sql : String}
    (h : (SchemaOp.alter table alteration).toSql = .ok sql) : alteration.Allowed table := by
  obtain ⟨_, hcheck, -⟩ := bind_eq_ok_iff.1 h
  exact check_eq_ok_iff.1 hcheck

end Alteration

/-! ### Renaming -/

theorem renamed_injOn {old new : String} {names : List String} (hnew : new ∉ names) :
    ∀ name ∈ names, ∀ other ∈ names, renamed old new name = renamed old new other →
      name = other := by
  intro name hname other hother h
  by_cases hold : name = old <;> by_cases hold' : other = old <;>
    simp only [renamed, hold, hold', if_true, if_false] at h ⊢
  · exact absurd (h ▸ hother) hnew
  · exact absurd (h ▸ hname) hnew
  · exact h

/-! ### Valid tables stay valid -/

namespace Table.Valid

variable {name : String} {columns : List (String × Column)} {settings : TableSettings}

theorem addColumn (h : Valid name columns settings) {new : String} {column : Column}
    (hplain : ¬column.designated) (hcolumn : column.Valid) :
    Valid name (columns ++ [(new, column)]) settings where
  name_ne := h.name_ne
  columns_ne := by simp
  column := by
    rw [List.forall_mem_append, List.forall_mem_singleton]
    exact ⟨h.column, hcolumn⟩
  timestamps := by
    rw [List.countP_append, List.countP_singleton, if_neg hplain]
    exact h.timestamps
  partitionBy := fun hpartition => by
    obtain ⟨timestamp, hmem, hdesignated⟩ := h.partitionBy hpartition
    exact ⟨timestamp, List.mem_append_left _ hmem, hdesignated⟩
  wal := h.wal
  dedupKeys := fun hkeys => by
    obtain ⟨hnodup, hknown, ⟨timestamp, hmem, hdesignated⟩, hstored⟩ := h.dedupKeys hkeys
    rw [List.map_append]
    exact ⟨hnodup, fun key hkey => List.mem_append_left _ (hknown key hkey),
      ⟨timestamp, List.mem_append_left _ hmem, hdesignated⟩, hstored⟩
  ttl := h.ttl
  maxLag := h.maxLag

/-- A column that is not the designated timestamp can go, if another one is left. -/
theorem dropColumn (h : Valid name columns settings) {dropped : String}
    (hplain : ∀ column ∈ columns, column.2.designated → column.1 ≠ dropped)
    (hleft : (columns.filter fun column => column.1 ≠ dropped) ≠ []) :
    Valid name (columns.filter fun column => column.1 ≠ dropped)
      { settings with dedupKeys := settings.dedupKeys.filter (· ≠ dropped) } where
  name_ne := h.name_ne
  columns_ne := hleft
  column := fun column hmem => h.column column (List.mem_of_mem_filter hmem)
  timestamps := Nat.le_trans List.filter_sublist.countP_le h.timestamps
  partitionBy := fun hpartition => by
    obtain ⟨timestamp, hmem, hdesignated⟩ := h.partitionBy hpartition
    have hkept := hplain timestamp hmem hdesignated
    exact ⟨timestamp, List.mem_filter.2 ⟨hmem, by simpa using hkept⟩, hdesignated⟩
  wal := h.wal
  dedupKeys := fun hkeys => by
    have hkeys' : settings.dedupKeys ≠ [] := by
      rintro heq
      rw [heq] at hkeys
      exact hkeys rfl
    obtain ⟨hnodup, hknown, ⟨timestamp, hmem, hdesignated, hkey⟩, hstored⟩ := h.dedupKeys hkeys'
    have hkept := hplain timestamp hmem hdesignated
    refine ⟨hnodup.filter _, fun key hkey => ?_, ⟨timestamp, ?_, hdesignated, ?_⟩, hstored⟩
    · obtain ⟨hkey, hne⟩ := List.mem_filter.1 hkey
      obtain ⟨column, hcolumn, rfl⟩ := List.mem_map.1 (hknown key hkey)
      exact List.mem_map_of_mem (List.mem_filter.2 ⟨hcolumn, hne⟩)
    · exact List.mem_filter.2 ⟨hmem, by simpa using hkept⟩
    · exact List.mem_filter.2 ⟨hkey, by simpa using hkept⟩
  ttl := h.ttl
  maxLag := h.maxLag

theorem renameColumn (h : Valid name columns settings) {old new : String}
    (hnew : new ∉ columns.map Prod.fst) :
    Valid name (columns.map fun column => (renamed old new column.1, column.2))
      { settings with dedupKeys := settings.dedupKeys.map (renamed old new) } where
  name_ne := h.name_ne
  columns_ne := by simpa using h.columns_ne
  column := by
    rw [List.forall_mem_map]
    exact h.column
  timestamps := by
    rw [List.countP_map]
    exact h.timestamps
  partitionBy := fun hpartition => by
    obtain ⟨timestamp, hmem, hdesignated⟩ := h.partitionBy hpartition
    exact ⟨_, List.mem_map_of_mem hmem, hdesignated⟩
  wal := h.wal
  dedupKeys := fun hkeys => by
    have hkeys' : settings.dedupKeys ≠ [] := by simpa using hkeys
    obtain ⟨hnodup, hknown, ⟨timestamp, hmem, hdesignated, hkey⟩, hstored⟩ := h.dedupKeys hkeys'
    have hnew' : new ∉ settings.dedupKeys := fun hmem => hnew (hknown new hmem)
    refine ⟨hnodup.map_on (renamed_injOn hnew'), ?_,
      ⟨_, List.mem_map_of_mem hmem, hdesignated, List.mem_map_of_mem hkey⟩, hstored⟩
    rw [List.forall_mem_map]
    intro key hkey
    obtain ⟨column, hcolumn, rfl⟩ := List.mem_map.1 (hknown key hkey)
    exact List.mem_map.2 ⟨_, List.mem_map_of_mem hcolumn, rfl⟩
  ttl := h.ttl
  maxLag := h.maxLag

theorem setTtl (h : Valid name columns settings) {ttl : Ttl} (hamount : 0 < ttl.amount)
    (hpartitioned : settings.partitionBy ≠ .none) :
    Valid name columns { settings with ttl := some ttl } :=
  { h with
    ttl := by
      rintro _ ⟨⟩
      exact ⟨hamount, hpartitioned⟩ }

theorem setMaxUncommittedRows (h : Valid name columns settings) (rows : Nat) :
    Valid name columns { settings with maxUncommittedRows := some rows } :=
  { h with }

theorem setMaxLag (h : Valid name columns settings) {lag : String}
    (hlag : Period.isPeriod lag.toList) :
    Valid name columns { settings with maxLag := some lag } :=
  { h with
    maxLag := by
      rintro _ ⟨⟩
      exact hlag }

end Table.Valid

namespace Alteration

variable {table : Table} {alteration : Alteration}

/-- An alteration that is let through leaves distinct names. -/
theorem nodup_columns (hallowed : alteration.Allowed table) :
    ((alteration.columns table.columns.entries).map Prod.fst).Nodup := by
  cases alteration with
  | addColumn name column =>
    rw [columns, List.map_append, List.map_singleton, List.nodup_append]
    refine ⟨table.columns.nodup, List.nodup_singleton _, fun key hkey other hother => ?_⟩
    rw [List.mem_singleton.1 hother]
    rintro rfl
    exact hallowed.2.1 hkey
  | dropColumn name => exact table.columns.nodup.sublist (List.filter_sublist.map Prod.fst)
  | renameColumn old new =>
    have hmap : (columns table.columns.entries (renameColumn old new)).map Prod.fst =
        table.columns.names.map (renamed old new) := by
      rw [columns, Keyed.names, List.map_map, List.map_map]
      rfl
    rw [hmap]
    exact table.columns.nodup.map_on (renamed_injOn hallowed.2)
  | _ => exact table.columns.nodup

def DropsLast (table : Table) (alteration : Alteration) : Prop :=
  ∃ name, alteration = dropColumn name ∧ table.columns.names = [name]

theorem eq_singleton_of_nodup {name : String} {names : List String} (hnodup : names.Nodup)
    (hmem : name ∈ names) (hall : ∀ other ∈ names, other = name) : names = [name] := by
  match names, hnodup, hmem with
  | [only], _, hmem => rw [List.mem_singleton.1 hmem]
  | first :: second :: rest, hnodup, _ =>
    have hfirst := hall first List.mem_cons_self
    have hsecond := hall second (List.mem_cons_of_mem _ List.mem_cons_self)
    rw [hfirst, hsecond] at hnodup
    exact absurd List.mem_cons_self (List.nodup_cons.1 hnodup).1

theorem columns_eq_nil_iff (hvalid : table.check = .ok ()) (hallowed : alteration.Allowed table) :
    alteration.columns table.columns.entries = [] ↔ alteration.DropsLast table := by
  have hne := (Table.check_eq_ok_iff.1 hvalid).columns_ne
  cases alteration with
  | dropColumn name =>
    have hempty : columns table.columns.entries (dropColumn name) = [] ↔
        ∀ other ∈ table.columns.names, other = name := by
      simp [columns, Keyed.names]
    rw [hempty]
    constructor
    · exact fun hall => ⟨name, rfl, eq_singleton_of_nodup table.columns.nodup hallowed.2 hall⟩
    · rintro ⟨_, ⟨⟩, hnames⟩ other hother
      rw [hnames] at hother
      exact List.mem_singleton.1 hother
  | addColumn name column => simp [columns, DropsLast]
  | renameColumn old new => simpa [columns, DropsLast] using hne
  | _ => simpa [columns, DropsLast] using hne

/-- What an alteration that is let through leaves of a valid table is valid, if it leaves a
column. -/
theorem valid_altered (hvalid : table.check = .ok ()) (hallowed : alteration.Allowed table)
    (hleft : alteration.columns table.columns.entries ≠ []) :
    Table.Valid table.name (alteration.columns table.columns.entries)
      (alteration.settings table.toTableSettings) := by
  have h := Table.check_eq_ok_iff.1 hvalid
  cases alteration with
  | addColumn name column => exact h.addColumn hallowed.1 hallowed.2.2
  | dropColumn name =>
    have hone : table.timestamps.length ≤ 1 := Table.length_timestamps ▸ h.timestamps
    refine h.dropColumn (fun column hcolumn hdesignated hname => hallowed.1 ?_) hleft
    exact (Table.mem_timestamp?_iff hone).2 ⟨column, hcolumn, hdesignated, hname⟩
  | renameColumn old new => exact h.renameColumn hallowed.2
  | setTtl ttl => exact h.setTtl hallowed.1 hallowed.2
  | setMaxUncommittedRows rows => exact h.setMaxUncommittedRows rows
  | setMaxLag lag => exact h.setMaxLag hallowed
  | partitions action names => exact h
  | squashPartitions => exact h
  | resumeWal fromTxn => exact h

theorem entries_altered (hallowed : alteration.Allowed table) :
    (table.altered alteration).columns.entries = alteration.columns table.columns.entries := by
  rw [Table.altered, Keyed.ofList_of_nodup (nodup_columns hallowed)]

end Alteration

theorem Table.check_of_no_columns {table : Table} (hname : table.name ≠ "")
    (hcolumns : table.columns.entries = []) :
    table.check = .error (.validation (.noColumns table.name)) := by
  have hnamed : refuseIf (table.name == "") .emptyTableName = .ok () :=
    refuseIf_eq_ok_iff.2 (beq_eq_false_iff_ne.2 hname)
  rw [check, hnamed, hcolumns]
  rfl

/-- An alteration that is rendered for a valid table leaves a valid table, unless it drops the only
column. What that leaves is refused for having no column. -/
theorem SchemaOp.altered_valid_unless_last {table : Table} {alteration : Alteration} {sql : String}
    (hvalid : table.check = .ok ()) (hsql : (alter table alteration).toSql = .ok sql) :
    (table.altered alteration).columns.entries = alteration.columns table.columns.entries ∧
      (¬alteration.DropsLast table → (table.altered alteration).check = .ok ()) ∧
      (alteration.DropsLast table →
        (table.altered alteration).check = .error (.validation (.noColumns table.name))) := by
  have hallowed := Alteration.allowed_of_toSql hsql
  have hentries := Alteration.entries_altered hallowed
  have hempty := Alteration.columns_eq_nil_iff hvalid hallowed
  refine ⟨hentries, fun hlast => ?_, fun hlast => ?_⟩
  · rw [Table.check_eq_ok_iff, hentries]
    exact Alteration.valid_altered hvalid hallowed (mt hempty.1 hlast)
  · have hname := (Table.check_eq_ok_iff.1 hvalid).name_ne
    exact Table.check_of_no_columns hname (hentries.trans (hempty.2 hlast))

/-- The only column of a table can be dropped, which leaves no table. -/
theorem SchemaOp.altered_valid_unless_last_dropped :
    let table : Table :=
      { TableSettings.default with name := "t", columns := .ofList [("v", .ofType .long)] }
    table.check = .ok () ∧
      (alter table (.dropColumn "v")).toSql = .ok "ALTER TABLE t DROP COLUMN v" ∧
      (table.altered (.dropColumn "v")).check = .error (.validation (.noColumns "t")) := by
  intro table
  have hvalid : table.check = .ok () := rfl
  have hsql : (alter table (.dropColumn "v")).toSql = .ok "ALTER TABLE t DROP COLUMN v" := by
    simp only [table]
    rfl
  obtain ⟨-, -, hlast⟩ := altered_valid_unless_last hvalid hsql
  exact ⟨hvalid, hsql, hlast ⟨"v", rfl, rfl⟩⟩

end SeriesSql
