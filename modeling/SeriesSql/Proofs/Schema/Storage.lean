import Mathlib
import SeriesSql.Proofs.Schema.Alteration

/-!
# Alterations of how a table is stored

The partitions of a table, the time its rows are kept and its write-ahead log exist in a table that
is divided into partitions, and the rules of a valid table say so. An alteration of any of them
would have to be refused for every other table. Two are not held against the partitions.
-/

namespace SeriesSql

open Check

namespace Alteration

variable {table : Table} {alteration : Alteration}

def ActsOnStorage : Alteration → Prop
  | setTtl _ => True
  | partitions _ _ => True
  | squashPartitions => True
  | resumeWal _ => True
  | _ => False

/-- Whether a table has what an alteration acts on, and the alteration says what to do with it. -/
def Applies (table : Table) : Alteration → Prop
  | setTtl ttl => table.partitionBy ≠ .none ∧ 0 < ttl.amount
  | partitions _ names => table.partitionBy ≠ .none ∧ names ≠ []
  | squashPartitions => table.partitionBy ≠ .none
  | resumeWal _ => table.partitionBy ≠ .none ∧ table.wal ≠ some false
  | _ => True

/-- Whether an alteration has nothing to act on, and no rule that notices. -/
def Unguarded (table : Table) : Alteration → Prop
  | squashPartitions => table.partitionBy = .none
  | resumeWal _ => table.partitionBy = .none ∧ table.wal = none
  | _ => False

theorem not_applies_of_unguarded (h : alteration.Unguarded table) : ¬ alteration.Applies table := by
  cases alteration with
  | squashPartitions => exact fun happlies => happlies h
  | resumeWal fromTxn => exact fun happlies => happlies.1 h.1
  | _ => exact h.elim

/-- A table without partitions has no write-ahead log, unless it is left to the engine. -/
theorem wal_of_unpartitioned (hvalid : table.check = .ok ()) (htable : table.partitionBy = .none)
    (hwal : table.wal ≠ some false) : table.wal = none := by
  have hon : table.wal ≠ some true := fun hon => (Table.check_eq_ok_iff.1 hvalid).wal hon htable
  match hcase : table.wal with
  | none => rfl
  | some true => exact absurd hcase hon
  | some false => exact absurd hcase hwal

theorem allowed_iff_applies (hvalid : table.check = .ok ()) (hstorage : alteration.ActsOnStorage) :
    alteration.Allowed table ↔ alteration.Applies table ∨ alteration.Unguarded table := by
  cases alteration with
  | setTtl ttl => simp only [Allowed, Applies, Unguarded, or_false, and_comm]
  | partitions action names => simp only [Allowed, Applies, Unguarded, or_false, and_comm]
  | squashPartitions => simp only [Allowed, Applies, Unguarded, ne_or_eq]
  | resumeWal fromTxn =>
    constructor
    · intro hwal
      by_cases htable : table.partitionBy = .none
      · exact .inr ⟨htable, wal_of_unpartitioned hvalid htable hwal⟩
      · exact .inl ⟨htable, hwal⟩
    · intro h
      obtain ⟨-, hwal⟩ | ⟨-, hwal⟩ := h
      · exact hwal
      · simp [Allowed, hwal]
  | _ => exact hstorage.elim

/-! ### The statement -/

theorem exists_clause (hstorage : alteration.ActsOnStorage) :
    ∃ clause, alteration.clause = .ok clause := by
  cases alteration with
  | setTtl | partitions | squashPartitions => exact ⟨_, rfl⟩
  | resumeWal fromTxn => cases fromTxn <;> exact ⟨_, rfl⟩
  | _ => exact hstorage.elim

theorem violation_of_check {e : SqlError} (hstorage : alteration.ActsOnStorage)
    (h : alteration.check table = .error e) : ∃ violation, e = .validation violation := by
  cases alteration with
  | setTtl ttl =>
    obtain h | ⟨-, -, h⟩ := bind_eq_error_iff.1 h <;>
      exact ⟨_, (refuseIf_eq_error_iff.1 h).2⟩
  | partitions action names =>
    obtain h | ⟨-, -, h⟩ := bind_eq_error_iff.1 h <;>
      exact ⟨_, (refuseIf_eq_error_iff.1 h).2⟩
  | squashPartitions => cases h
  | resumeWal fromTxn => exact ⟨_, (refuseIf_eq_error_iff.1 h).2⟩
  | _ => exact hstorage.elim

end Alteration

namespace SchemaOp

/-- An alteration of the partitions, the time to live or the write-ahead log of a valid table is
accepted exactly if the table is divided into partitions and the alteration says what to do with
them, with a log that is not bypassed. Two more are accepted where there are no partitions: to
squash them, and to resume a log that is left to the engine. Any other is refused for breaking a
rule. -/
theorem storage_refused_iff {table : Table} {alteration : Alteration}
    (hvalid : table.check = .ok ()) (hstorage : alteration.ActsOnStorage) :
    ((∃ violation, (alter table alteration).toSql = .error (.validation violation)) ↔
        ¬ alteration.Applies table ∧ ¬ alteration.Unguarded table) ∧
      ((∃ sql, (alter table alteration).toSql = .ok sql) ↔
        alteration.Applies table ∨ alteration.Unguarded table) ∧
      (alteration.Unguarded table → ¬ alteration.Applies table) := by
  obtain ⟨clause, hclause⟩ := Alteration.exists_clause hstorage
  have hallowed := Alteration.allowed_iff_applies hvalid hstorage
  refine ⟨?_, ?_, Alteration.not_applies_of_unguarded⟩
  · rw [← not_or, ← hallowed, ← Alteration.check_eq_ok_iff]
    constructor
    · intro ⟨violation, hsql⟩ hcheck
      rw [toSql, hcheck, hclause] at hsql
      cases hsql
    · intro hcheck
      cases h : alteration.check table with
      | ok accepted => exact absurd h hcheck
      | error e =>
        obtain ⟨violation, rfl⟩ := Alteration.violation_of_check hstorage h
        exact ⟨violation, by rw [toSql, h]; rfl⟩
  · rw [← hallowed, ← Alteration.check_eq_ok_iff]
    constructor
    · intro ⟨sql, hsql⟩
      exact Alteration.check_eq_ok_iff.2 (Alteration.allowed_of_toSql hsql)
    · intro hcheck
      exact ⟨_, by rw [toSql, hcheck, hclause]; rfl⟩

/-- The partitions of a table that has none can be squashed, though none of them can be dropped. -/
theorem storage_refused_iff_squashed :
    let table : Table :=
      { TableSettings.default with name := "log", columns := .ofList [("line", .ofType .varchar)] }
    table.check = .ok () ∧
      (alter table .squashPartitions).toSql = .ok "ALTER TABLE log SQUASH PARTITIONS" ∧
      ¬ Alteration.Applies table .squashPartitions ∧
      (∃ sql, (alter table (.resumeWal none)).toSql = .ok sql) ∧
      ∃ violation, (alter table (.partitions .drop ["2024"])).toSql =
        .error (.validation violation) := by
  intro table
  have hvalid : table.check = .ok () := rfl
  obtain ⟨-, -, hsquash⟩ := @storage_refused_iff table .squashPartitions hvalid trivial
  obtain ⟨-, hresume, -⟩ := @storage_refused_iff table (.resumeWal none) hvalid trivial
  obtain ⟨hdrop, -, -⟩ := @storage_refused_iff table (.partitions .drop ["2024"]) hvalid trivial
  refine ⟨hvalid, ?_, hsquash rfl, hresume.2 (.inr ⟨rfl, rfl⟩), hdrop.2 ⟨?_, id⟩⟩
  · simp only [table]
    rfl
  · exact fun happlies => happlies.1 rfl

end SchemaOp
end SeriesSql
