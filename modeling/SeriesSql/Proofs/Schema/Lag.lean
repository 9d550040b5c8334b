import Mathlib
import SeriesSql.Proofs.Schema.Declaration
import SeriesSql.Proofs.Schema.RepeatedColumn
import SeriesSql.Proofs.Sql.PeriodPlace
import SeriesSql.Schema.Operation

/-!
# Periods in tables and in statements

The lag of a table is a period that a statement shows without quotes, as the interval of a sampling
clause and the tolerance of a join are. All these places accept the same texts, and a text with
digits of another script is one of them.
-/

namespace SeriesSql

open Period (Spelled Place)

/-! ### Tables -/

namespace Table

theorem exists_settingsDdl_eq (table : Table) :
    ∃ before, ∀ lag, { table with maxLag := some lag }.settingsDdl = before ++ lag := by
  obtain ⟨before, hbefore⟩ : ∃ before, ∀ lag,
      tuningClause table.maxUncommittedRows (some lag) = before ++ lag := by
    cases table.maxUncommittedRows with
    | none => exact ⟨" WITH o3MaxLag=", fun lag => tuningClause_none _⟩
    | some rows =>
      refine ⟨" WITH maxUncommittedRows=" ++ toString rows ++ ", o3MaxLag=", fun lag => ?_⟩
      simp only [tuningClause_some, Option.map_some, Option.getD_some, String.append_assoc]
  refine ⟨timestampClause table.timestamp? ++ " PARTITION BY " ++ table.partitionBy.word ++
    ttlClause table.ttl ++ walClause table.wal ++ dedupClause table.dedupKeys ++ before,
    fun lag => ?_⟩
  rw [String.append_assoc, ← hbefore]
  rfl

variable {name : String} {columns : List (String × Column)} {settings : TableSettings}

theorem valid_maxLag_iff {lag : String} :
    Valid name columns { settings with maxLag := some lag } ↔
      Valid name columns { settings with maxLag := none } ∧
        Spelled Text.isDecimalDigit lag.toList := by
  rw [← Period.isPeriod_iff]
  constructor
  · intro h
    exact ⟨{ h with maxLag := nofun }, h.maxLag lag rfl⟩
  · rintro ⟨h, hlag⟩
    refine { h with maxLag := fun other hother => ?_ }
    obtain rfl := Option.some.inj hother
    exact hlag

/-- The lag is checked beside all the rest of a declaration, and decides nothing about it. -/
theorem exists_declare_maxLag_iff {lag : String} :
    (∃ table, declare name columns { settings with maxLag := some lag } = .ok table) ↔
      (∃ table, declare name columns { settings with maxLag := none } = .ok table) ∧
        Spelled Text.isDecimalDigit lag.toList := by
  rw [exists_declare_iff, exists_declare_iff, valid_maxLag_iff, and_assoc]

theorem exists_ofText?_maxLag_iff {lag : String} {document : Json}
    (h : IsDefinition name columns { settings with maxLag := some lag } document) :
    (∃ table, ofText? document.toText = .ok table) ↔
      Valid name (Keyed.ofList columns).entries { settings with maxLag := none } ∧
        Spelled Text.isDecimalDigit lag.toList := by
  rw [exists_ofText?_iff h, valid_maxLag_iff]

end Table

namespace SchemaOp

theorem place_create (table : Table) (ifNotExists : Bool) :
    Place .maxLag (∀ entry ∈ table.columns.entries, ¬ entry.2.Incomplete) fun lag =>
      (create { table with maxLag := some lag } ifNotExists).toSql := by
  obtain ⟨settings, hsettings⟩ := table.exists_settingsDdl_eq
  rw [← Table.exists_columnDdl_iff]
  simp only [toSql, hsettings]
  cases table.columns.entries.mapM Table.columnDdl with
  | error e => exact Period.place_of_never nofun fun lag sql => nofun
  | ok columns =>
    let condition := if ifNotExists then "IF NOT EXISTS " else ""
    let list := ", ".intercalate columns
    refine Period.place_of_check ⟨columns, rfl⟩
      (s!"CREATE TABLE {condition}{Token.name table.name} ({list})" ++ settings) "" fun lag => ?_
    simp only [String.append_empty, String.append_assoc]
    rfl

theorem place_setMaxLag (table : Table) :
    Place .maxLag True fun lag => (alter table (.setMaxLag lag)).toSql := by
  refine Period.place_of_check trivial
    ("ALTER TABLE " ++ Token.name table.name ++ " SET PARAM o3MaxLag = ") "" fun lag => ?_
  have htext : "ALTER TABLE " ++ Token.name table.name ++ " " ++ ("SET PARAM o3MaxLag = " ++ lag) =
      "ALTER TABLE " ++ Token.name table.name ++ " SET PARAM o3MaxLag = " ++ lag := by
    simp [← String.toList_inj]
  rw [String.append_empty, ← htext]
  rfl

end SchemaOp

/-! ### All places -/

namespace Period

/-- The interval of a sampling clause, the tolerance of a join and the lag of a table, where it is
created, changed, declared or read from JSON, are accepted exactly if they are a count and a unit
and everything else is in order, which is the case whenever one period is accepted there. They are
shown as they are. At any depth of a statement no other text is accepted for an interval or a
tolerance, and nothing but the other rules decides about one with a period there. The count may have
the digits of any script, so it has the digits from 0 to 9 only if it is in ASCII as well. -/
theorem accepted_everywhere (select : Select) (sampling : SampleBy) (first rest : List Join)
    (join : Join) (table : Table) (ifNotExists : Bool) (name : String)
    (columns : List (String × Column)) (settings : TableSettings) (root : Node) :
    let sampled := fun text =>
      { select with sampleBy := some { sampling with interval := text } }.write.toSql
    let joined := fun text =>
      { select with joins := first ++ { join with tolerance := some text } :: rest }.write.toSql
    Place .sampleInterval (∃ sql, sampled "1h" = .ok sql) sampled ∧
      Place .joinTolerance (∃ sql, joined "1h" = .ok sql) joined ∧
      (Place .maxLag (∀ entry ∈ table.columns.entries, ¬ entry.2.Incomplete) fun text =>
        (SchemaOp.create { table with maxLag := some text } ifNotExists).toSql) ∧
      (Place .maxLag True fun text => (SchemaOp.alter table (.setMaxLag text)).toSql) ∧
      (∀ text,
        (∃ declared,
          Table.declare name columns { settings with maxLag := some text } = .ok declared) ↔
        (∃ declared, Table.declare name columns { settings with maxLag := none } = .ok declared) ∧
          Spelled Text.isDecimalDigit text.toList) ∧
      (∀ text document,
        Table.IsDefinition name columns { settings with maxLag := some text } document →
        ((∃ read, Table.ofText? document.toText = .ok read) ↔
          Table.Valid name (Keyed.ofList columns).entries { settings with maxLag := none } ∧
            Spelled Text.isDecimalDigit text.toList)) ∧
      ((∃ sql, root.write.toSql = .ok sql) ↔
        (∀ node, root.Contains node → (node.withPeriod "1h").Sound) ∧
          ∀ node, root.Contains node → ∀ text ∈ node.period?,
            Spelled Text.isDecimalDigit text.toList) ∧
      ∀ text : String, Spelled Char.isDigit text.toList ↔
        Spelled Text.isDecimalDigit text.toList ∧ ∀ c ∈ text.toList, c.toNat < 0x80 := by
  intro sampled joined
  have hmodel : Spelled Text.isDecimalDigit "1h".toList := isPeriod_iff.1 rfl
  have hsteady : Writer.Steady root.write := root.composed.steady
  have hroot : (∃ sql, root.write.toSql = .ok sql) ↔ Writer.Succeeds root.write :=
    exists_congr fun sql => Writer.toSql_eq_ok_iff
  exact ⟨(select.shows_interval sampling).place hmodel,
    (select.shows_tolerance first rest join).place hmodel,
    SchemaOp.place_create table ifNotExists, SchemaOp.place_setMaxLag table,
    fun text => Table.exists_declare_maxLag_iff,
    fun text document => Table.exists_ofText?_maxLag_iff,
    hroot.trans (root.succeeds_write_iff_periods hmodel), fun text => spelled_isDigit_iff⟩

/-- An hour that is counted with the Arabic digit for one. -/
theorem accepted_everywhere_arabic :
    let call := Expr.call .aggregate "count" [] none
    let select := { Select.ofSource (.table "t" none) with projections := [⟨call, none⟩] }
    let sampled := fun text : String => { select with sampleBy := some ⟨text, [], none⟩ }
    (∃ sql, (sampled "\u0661h").write.toSql = .ok sql) ∧
      ¬ Spelled Char.isDigit "\u0661h".toList := by
  intro call select sampled
  let table : Table := { TableSettings.default with name := "t", columns := .empty }
  have hmodel : (sampled "1h").write.toSql = .ok "SELECT count()\nFROM t\nSAMPLE BY 1h" := by
    simp only [sampled, select, call]
    rfl
  have hspelled : Spelled Text.isDecimalDigit "\u0661h".toList := isPeriod_iff.1 (by decide)
  obtain ⟨hinterval, -, -, -, -, -, -, hascii⟩ := accepted_everywhere select ⟨"1h", [], none⟩ [] []
    ⟨.cross, .table "t" none, none, none⟩ table false "t" [] .default (.select select)
  refine ⟨(hinterval.takes "\u0661h").2 ⟨⟨_, hmodel⟩, hspelled⟩, fun h => ?_⟩
  exact absurd (((hascii "\u0661h").1 h).2 '\u0661' (by decide)) (by decide)

end Period

end SeriesSql
