import Mathlib
import SeriesSql.Proofs.Schema.Declaration
import SeriesSql.Proofs.Schema.Validity

/-!
# What the text of a schema operation shows

The text of a schema operation shows which operation it is, the table, and everything that is said
about it, for names of any characters. The words that the operations and the changes of a table
start with are told apart whatever follows them. The condition of a statement cannot be taken for a
table whose name is the first word of the condition, because of what comes after that word.
-/

namespace SeriesSql

open Check

/-! ### Changes -/

namespace Alteration

inductive Form where
  | addColumn
  | dropColumn
  | renameColumn
  | setTtl
  | setMaxUncommittedRows
  | setMaxLag
  | partitions (action : PartitionAction)
  | squashPartitions
  | resumeWal

def Form.words : Form → String
  | addColumn => "ADD COLUMN "
  | dropColumn => "DROP COLUMN "
  | renameColumn => "RENAME COLUMN "
  | setTtl => "SET TTL "
  | setMaxUncommittedRows => "SET PARAM maxUncommittedRows = "
  | setMaxLag => "SET PARAM o3MaxLag = "
  | partitions action => action.word ++ " PARTITION LIST "
  | squashPartitions => "SQUASH PARTITIONS"
  | resumeWal => "RESUME WAL"

def Form.all : List Form :=
  [addColumn, dropColumn, renameColumn, setTtl, setMaxUncommittedRows, setMaxLag,
    partitions .drop, partitions .detach, partitions .attach, squashPartitions, resumeWal]

theorem Form.prefixFree : PrefixFree Form.words := by
  apply prefixFree_of_choice Form.all
  intro form rest
  cases form with
  | partitions action => cases action <;> rfl
  | _ => rfl

def form : Alteration → Form
  | addColumn _ _ => .addColumn
  | dropColumn _ => .dropColumn
  | renameColumn _ _ => .renameColumn
  | setTtl _ => .setTtl
  | setMaxUncommittedRows _ => .setMaxUncommittedRows
  | setMaxLag _ => .setMaxLag
  | partitions action _ => .partitions action
  | squashPartitions => .squashPartitions
  | resumeWal _ => .resumeWal

def details : Alteration → Except SqlError String
  | addColumn name column => Table.columnDdl (name, column)
  | dropColumn name => .ok (Token.name name)
  | renameColumn old new => .ok (Token.name old ++ " TO " ++ Token.name new)
  | setTtl ttl => .ok ttl.toText
  | setMaxUncommittedRows rows => .ok (toString rows)
  | setMaxLag lag => .ok lag
  | partitions _ names => .ok (", ".intercalate (names.map Token.quoted))
  | squashPartitions => .ok ""
  | resumeWal txn => .ok ((txn.map fun txn => " FROM TXN " ++ toString txn).getD "")

theorem clause_eq (alteration : Alteration) :
    alteration.clause = alteration.details.map fun text => alteration.form.words ++ text := by
  cases alteration with
  | addColumn name column =>
    rw [clause, details, Table.columnDdl]
    cases column.ddlType with
    | error e => rfl
    | ok type =>
      change Except.ok ("ADD COLUMN " ++ Token.name name ++ " " ++ type) =
        .ok ("ADD COLUMN " ++ (Token.name name ++ " " ++ type))
      simp only [String.append_assoc]
  | renameColumn old new =>
    change Except.ok ("RENAME COLUMN " ++ Token.name old ++ " TO " ++ Token.name new) =
      .ok ("RENAME COLUMN " ++ (Token.name old ++ " TO " ++ Token.name new))
    simp only [String.append_assoc]
  | resumeWal txn =>
    cases txn with
    | none => rfl
    | some txn =>
      change Except.ok ("RESUME WAL FROM TXN " ++ toString txn) =
        .ok ("RESUME WAL" ++ (" FROM TXN " ++ toString txn))
      rw [← String.append_assoc]
      rfl
  | _ => rfl

/-- Two changes that say the same, with the types of added columns as they are declared. -/
def Alike : Alteration → Alteration → Prop
  | addColumn name column, addColumn name' column' =>
    name = name' ∧ column.ddlType = column'.ddlType
  | alteration, alteration' => alteration = alteration'

theorem renaming_injective :
    Function.Injective fun p : String × String => Token.name p.1 ++ " TO " ++ Token.name p.2 :=
  ((legible_name rfl).pair (legible_name List.all_nil)).injective

theorem quotedList_injective :
    Function.Injective fun names : List String => ", ".intercalate (names.map Token.quoted) :=
  ((legible_quoted rfl).list (apart_quoted List.all_nil) rfl).injective

theorem fromTxn_injective :
    Function.Injective fun txn : Option Nat =>
      (txn.map fun txn => " FROM TXN " ++ toString txn).getD "" :=
  (((legible_nat List.all_nil).prepend _).option <|
    apart_of_clash fun txn => ⟨" FROM TXN ", by simp, rfl⟩).injective

theorem alike_of_details {alteration alteration' : Alteration} {text : String}
    (hform : alteration.form = alteration'.form) (h : alteration.details = .ok text)
    (h' : alteration'.details = .ok text) : alteration.Alike alteration' := by
  cases alteration with
  | addColumn name column =>
    cases alteration' with
    | addColumn name' column' =>
      obtain ⟨type, htype, rfl⟩ := exists_type h
      obtain ⟨type', htype', htexts⟩ := exists_type h'
      obtain ⟨rfl, rfl⟩ := Prod.mk.inj (legible_columnText.injective htexts)
      exact ⟨rfl, htype.trans htype'.symm⟩
    | _ => cases hform
  | dropColumn name =>
    cases alteration' with
    | dropColumn name' =>
      have hnames := Except.ok.inj (h.trans h'.symm)
      exact congrArg dropColumn (Token.name_injective hnames)
    | _ => cases hform
  | renameColumn old new =>
    cases alteration' with
    | renameColumn old' new' =>
      have hnames := Except.ok.inj (h.trans h'.symm)
      have hpair : (old, new) = (old', new') := renaming_injective hnames
      obtain ⟨rfl, rfl⟩ := Prod.mk.inj hpair
      rfl
    | _ => cases hform
  | setTtl ttl =>
    cases alteration' with
    | setTtl ttl' =>
      have htexts := Except.ok.inj (h.trans h'.symm)
      exact congrArg setTtl ((legible_ttl []).injective htexts)
    | _ => cases hform
  | setMaxUncommittedRows rows =>
    cases alteration' with
    | setMaxUncommittedRows rows' =>
      have htexts := Except.ok.inj (h.trans h'.symm)
      exact congrArg setMaxUncommittedRows (nat_injective htexts)
    | _ => cases hform
  | setMaxLag lag =>
    cases alteration' with
    | setMaxLag lag' => exact congrArg setMaxLag (Except.ok.inj (h.trans h'.symm))
    | _ => cases hform
  | partitions action names =>
    cases alteration' with
    | partitions action' names' =>
      obtain rfl := Form.partitions.inj hform
      have htexts := Except.ok.inj (h.trans h'.symm)
      exact congrArg (partitions action) (quotedList_injective htexts)
    | _ => cases hform
  | squashPartitions =>
    cases alteration' with
    | squashPartitions => rfl
    | _ => cases hform
  | resumeWal txn =>
    cases alteration' with
    | resumeWal txn' =>
      have htexts := Except.ok.inj (h.trans h'.symm)
      exact congrArg resumeWal (fromTxn_injective htexts)
    | _ => cases hform

theorem alike_of_clause {alteration alteration' : Alteration} {text : String}
    (h : alteration.clause = .ok text) (h' : alteration'.clause = .ok text) :
    alteration.Alike alteration' := by
  rw [clause_eq] at h h'
  obtain ⟨rest, hdetails, rfl⟩ := map_eq_ok_iff.1 h
  obtain ⟨rest', hdetails', htexts⟩ := map_eq_ok_iff.1 h'
  rw [← String.toList_inj, String.toList_append, String.toList_append] at htexts
  obtain ⟨hform, hrests⟩ := Form.prefixFree htexts
  obtain rfl := String.toList_inj.1 hrests
  exact alike_of_details hform.symm hdetails hdetails'

end Alteration

/-! ### Operations -/

/-- The name of a table behind the condition of a statement, if there is one. -/
def conditional (condition : String) (table : Bool × String) : String :=
  (if table.1 then condition else "") ++ Token.name table.2

/-- A condition cannot be taken for a table whose name is its first word. -/
theorem legible_conditional (more : String) {texts : List String} (hmore : startsDelimited more)
    (htexts : texts.all startsDelimited) (hclash : (")" :: texts).all (clash more)) :
    Legible (conditional ("IF" ++ more)) texts := by
  have hname := legible_name htexts
  have hword : Legible Token.name (more :: texts) := legible_name <| by
    rw [List.all_cons, hmore, htexts]
    rfl
  have hmixed : ∀ {name name' : String} {rest rest' : List Char}, Starts texts rest' →
      (conditional ("IF" ++ more) (true, name)).toList ++ rest ≠
        (conditional ("IF" ++ more) (false, name')).toList ++ rest' := by
    intro name name' rest rest' hrest' heq
    have hif : "IF".toList ++ (more.toList ++ ((Token.name name).toList ++ rest)) =
        (Token.name name').toList ++ rest' := by
      simpa [conditional] using heq
    -- The word of the condition is written as the name would be.
    change (Token.name "IF").toList ++ _ = _ at hif
    obtain ⟨-, hrests⟩ := hword (.append List.mem_cons_self _)
      (hrest'.mono (List.subset_cons_self _ _)) hif
    exact hrest'.ne_append hclash _ hrests.symm
  rintro ⟨flag, name⟩ ⟨flag', name'⟩ rest rest' hrest hrest' heq
  match flag, flag' with
  | true, true =>
    obtain ⟨rfl, hrests⟩ := hname.prepend ("IF" ++ more) hrest hrest' heq
    exact ⟨rfl, hrests⟩
  | false, false =>
    obtain ⟨rfl, hrests⟩ := hname.prepend "" hrest hrest' heq
    exact ⟨rfl, hrests⟩
  | true, false => exact absurd heq (hmixed hrest')
  | false, true => exact absurd heq.symm (hmixed hrest)

theorem dropped_injective : Function.Injective (conditional "IF EXISTS ") :=
  (legible_conditional " EXISTS " rfl List.all_nil rfl).injective

namespace SchemaOp

inductive Kind where
  | create
  | drop
  | truncate
  | alter

def Kind.words : Kind → String
  | create => "CREATE TABLE "
  | drop => "DROP TABLE "
  | truncate => "TRUNCATE TABLE "
  | alter => "ALTER TABLE "

theorem Kind.prefixFree : PrefixFree Kind.words := by
  apply prefixFree_of_choice [.create, .drop, .truncate, .alter]
  intro kind rest
  cases kind <;> rfl

def kind : SchemaOp → Kind
  | create _ _ => .create
  | drop _ _ => .drop
  | truncate _ => .truncate
  | alter _ _ => .alter

def details : SchemaOp → Except SqlError String
  | create table ifNotExists => do
    let columns ← table.columns.entries.mapM Table.columnDdl
    table.maxLag.forM (Period.check .maxLag)
    return conditional "IF NOT EXISTS " (ifNotExists, table.name) ++ " (" ++
      ", ".intercalate columns ++ ")" ++ table.settingsDdl
  | drop table ifExists => .ok (conditional "IF EXISTS " (ifExists, table.name))
  | truncate table => .ok (Token.name table.name)
  | alter table alteration => do
    alteration.check table
    let clause ← alteration.clause
    return Token.name table.name ++ " " ++ clause

theorem toSql_eq (op : SchemaOp) :
    op.toSql = op.details.map fun text => op.kind.words ++ text := by
  cases op with
  | create table ifNotExists =>
    rw [toSql, details]
    cases table.columns.entries.mapM Table.columnDdl with
    | error e => rfl
    | ok columns =>
      cases table.maxLag.forM (Period.check .maxLag) with
      | error e => rfl
      | ok _ =>
        change Except.ok ("CREATE TABLE " ++ (if ifNotExists then "IF NOT EXISTS " else "") ++
            Token.name table.name ++ " (" ++ ", ".intercalate columns ++ ")" ++ table.settingsDdl) =
          .ok ("CREATE TABLE " ++ (conditional "IF NOT EXISTS " (ifNotExists, table.name) ++ " (" ++
            ", ".intercalate columns ++ ")" ++ table.settingsDdl))
        simp only [conditional, String.append_assoc]
  | drop table ifExists =>
    change Except.ok ("DROP TABLE " ++ (if ifExists then "IF EXISTS " else "") ++
        Token.name table.name) =
      .ok ("DROP TABLE " ++ conditional "IF EXISTS " (ifExists, table.name))
    simp only [conditional, String.append_assoc]
  | truncate table => rfl
  | alter table alteration =>
    rw [toSql, details]
    cases alteration.check table with
    | error e => rfl
    | ok _ =>
      cases alteration.clause with
      | error e => rfl
      | ok clause =>
        change Except.ok ("ALTER TABLE " ++ Token.name table.name ++ " " ++ clause) =
          .ok ("ALTER TABLE " ++ (Token.name table.name ++ " " ++ clause))
        simp only [String.append_assoc]

/-- Two operations that say the same: the same about the same table, with the types of columns as
they are declared. -/
def Alike : SchemaOp → SchemaOp → Prop
  | create table ifNotExists, create table' ifNotExists' =>
    ifNotExists = ifNotExists' ∧ table.name = table'.name ∧
      table.columns.entries.map declared = table'.columns.entries.map declared ∧
      table.timestamp? = table'.timestamp? ∧ table.toTableSettings = table'.toTableSettings
  | drop table ifExists, drop table' ifExists' =>
    ifExists = ifExists' ∧ table.name = table'.name
  | truncate table, truncate table' => table.name = table'.name
  | alter table alteration, alter table' alteration' =>
    table.name = table'.name ∧ alteration.Alike alteration'
  | _, _ => False

theorem alike_of_details {op op' : SchemaOp} {text : String} (hkind : op.kind = op'.kind)
    (h : op.details = .ok text) (h' : op'.details = .ok text) : op.Alike op' := by
  cases op with
  | create table ifNotExists =>
    cases op' with
    | create table' ifNotExists' =>
      obtain ⟨columns, hcolumns, h⟩ := bind_eq_ok_iff.1 h
      obtain ⟨-, -, h⟩ := bind_eq_ok_iff.1 h
      obtain ⟨columns', hcolumns', h'⟩ := bind_eq_ok_iff.1 h'
      obtain ⟨-, -, h'⟩ := bind_eq_ok_iff.1 h'
      obtain ⟨types, rfl, htypes⟩ := exists_types hcolumns
      obtain ⟨types', rfl, htypes'⟩ := exists_types hcolumns'
      have htexts := congrArg String.toList (Except.ok.inj (h.trans h'.symm))
      simp only [String.toList_append, List.append_assoc] at htexts
      have hconditional : Legible (conditional "IF NOT EXISTS ") [" ("] :=
        legible_conditional " NOT EXISTS " rfl rfl rfl
      have hlist : Legible
          (fun types : List (String × TypeText) => ", ".intercalate (types.map columnText)) [] :=
        legible_columnText.list apart_columnText rfl
      obtain ⟨htable, hrest⟩ := hconditional (.append (List.mem_singleton_self _) _)
        (.append (List.mem_singleton_self _) _) htexts
      obtain ⟨rfl, hsettings⟩ := hlist (.close _) (.close _) (List.append_cancel_left hrest)
      obtain ⟨hflag, hname⟩ := Prod.mk.inj htable
      have hddl := String.toList_inj.1 (List.cons.inj hsettings).2
      exact ⟨hflag, hname, htypes.trans htypes'.symm, Table.settingsDdl_inj hddl⟩
    | _ => cases hkind
  | drop table ifExists =>
    cases op' with
    | drop table' ifExists' =>
      have htexts := Except.ok.inj (h.trans h'.symm)
      have hpair : (ifExists, table.name) = (ifExists', table'.name) :=
        dropped_injective htexts
      exact Prod.mk.inj hpair
    | _ => cases hkind
  | truncate table =>
    cases op' with
    | truncate table' =>
      exact Token.name_injective (Except.ok.inj (h.trans h'.symm))
    | _ => cases hkind
  | alter table alteration =>
    cases op' with
    | alter table' alteration' =>
      obtain ⟨-, -, h⟩ := bind_eq_ok_iff.1 h
      obtain ⟨clause, hclause, h⟩ := bind_eq_ok_iff.1 h
      obtain ⟨-, -, h'⟩ := bind_eq_ok_iff.1 h'
      obtain ⟨clause', hclause', h'⟩ := bind_eq_ok_iff.1 h'
      have htexts := congrArg String.toList (Except.ok.inj (h.trans h'.symm))
      simp only [String.toList_append, List.append_assoc] at htexts
      have hname : Legible Token.name [" "] := legible_name rfl
      obtain ⟨hnames, hrest⟩ := hname (.append (List.mem_singleton_self _) _)
        (.append (List.mem_singleton_self _) _) htexts
      obtain rfl := String.toList_inj.1 (List.append_cancel_left hrest)
      exact ⟨hnames, Alteration.alike_of_clause hclause hclause'⟩
    | _ => cases hkind

theorem alike_of_toSql {op op' : SchemaOp} {text : String} (h : op.toSql = .ok text)
    (h' : op'.toSql = .ok text) : op.Alike op' := by
  rw [toSql_eq] at h h'
  obtain ⟨rest, hdetails, rfl⟩ := map_eq_ok_iff.1 h
  obtain ⟨rest', hdetails', htexts⟩ := map_eq_ok_iff.1 h'
  rw [← String.toList_inj, String.toList_append, String.toList_append] at htexts
  obtain ⟨hkind, hrests⟩ := Kind.prefixFree htexts
  obtain rfl := String.toList_inj.1 hrests
  exact alike_of_details hkind.symm hdetails hdetails'

end SchemaOp

/-! ### The text of an operation -/

theorem SchemaOp.create_fails_iff {table : Table} (hvalid : table.check = .ok ())
    (ifNotExists : Bool) :
    (∃ e, (create table ifNotExists).toSql = .error e) ↔
      ∃ entry ∈ table.columns.entries, entry.2.Incomplete := by
  have hlag : table.maxLag.forM (Period.check .maxLag) = .ok () :=
    optionForM_eq_ok_iff.2 fun lag hlag =>
      period_eq_ok_iff.2 ((Table.check_eq_ok_iff.1 hvalid).maxLag lag hlag)
  have hincomplete : (∃ entry ∈ table.columns.entries, entry.2.Incomplete) ↔
      ¬ ∃ columns, table.columns.entries.mapM Table.columnDdl = .ok columns := by
    rw [Table.exists_columnDdl_iff]
    push Not
    rfl
  rw [hincomplete, toSql, hlag]
  cases table.columns.entries.mapM Table.columnDdl with
  | error e => exact ⟨fun _ => nofun, fun _ => ⟨e, rfl⟩⟩
  | ok columns => exact ⟨nofun, fun h => absurd ⟨columns, rfl⟩ h⟩

/-- Operations with the same text say the same, and a table that is valid can be created unless the
type of one of its columns is incomplete. -/
theorem SchemaOp.text_determines_operation :
    (∀ (op op' : SchemaOp) text, op.toSql = .ok text → op'.toSql = .ok text → op.Alike op') ∧
      ∀ table ifNotExists, table.check = .ok () →
        ((∃ e, (create table ifNotExists).toSql = .error e) ↔
          ∃ entry ∈ table.columns.entries, entry.2.Incomplete) :=
  ⟨fun _ _ _ => alike_of_toSql, fun _ ifNotExists hvalid => create_fails_iff hvalid ifNotExists⟩

/-- Timestamps of both precisions are declared alike, and a geohash without a length cannot be
declared. -/
theorem SchemaOp.text_determines_operation_timestamps :
    let table := fun (column : Column) => ({ TableSettings.default with
      name := "IF", columns := ⟨[("ts", column)], List.nodup_singleton "ts"⟩ } : Table)
    let micros := create (table { Column.ofType .timestamp with designated := true }) false
    let nanos := create (table { Column.ofType .timestampNs with designated := true }) false
    let untyped := table (Column.ofType .geohash)
    micros.toSql = .ok "CREATE TABLE IF (ts TIMESTAMP) timestamp(ts) PARTITION BY NONE" ∧
      nanos.toSql = micros.toSql ∧ micros.Alike nanos ∧
      untyped.check = .ok () ∧ ∃ e, (create untyped true).toSql = .error e := by
  intro table micros nanos untyped
  obtain ⟨hdetermined, hfails⟩ := text_determines_operation
  have hmicros : micros.toSql =
      .ok "CREATE TABLE IF (ts TIMESTAMP) timestamp(ts) PARTITION BY NONE" := by
    simp only [micros, table]
    rfl
  have hnanos : nanos.toSql =
      .ok "CREATE TABLE IF (ts TIMESTAMP) timestamp(ts) PARTITION BY NONE" := by
    simp only [nanos, table]
    rfl
  have hvalid : untyped.check = .ok () := rfl
  have hincomplete : ∃ entry ∈ untyped.columns.entries, entry.2.Incomplete :=
    ⟨_, List.mem_singleton_self _, .inl ⟨rfl, rfl⟩⟩
  exact ⟨hmicros, hnanos.trans hmicros.symm, hdetermined micros nanos _ hmicros hnanos, hvalid,
    (hfails untyped true hvalid).2 hincomplete⟩

end SeriesSql
