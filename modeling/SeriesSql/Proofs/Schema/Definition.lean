import Mathlib
import SeriesSql.Proofs.Json.Record
import SeriesSql.Proofs.Schema.Validity
import SeriesSql.Schema.Definition

/-!
# Tables are read from JSON

The JSON of a table is an object with the names of its parts. Its fields may come in any order,
other fields may stand between them, and a field that holds its default may be left out. Such an
object is read as the parts it was written for, and refused exactly when a declaration of them is.
-/

namespace SeriesSql

open Json Document

/-! ### Values -/

def Json.IsNatBelow (bound n : Nat) (json : Json) : Prop :=
  n < bound ∧ json = .ofNat n

theorem Document.asNatBelow?_of_isNatBelow {bound n : Nat} {json : Json}
    (h : IsNatBelow bound n json) : asNatBelow? bound json.document = some n := by
  obtain ⟨hlt, rfl⟩ := h
  exact asNatBelow?_toString hlt

theorem Document.asBool?_of_eq {b : Bool} {json : Json} (h : json = .bool b) :
    asBool? json.document = some b := by
  rw [h]
  rfl

theorem Document.asText?_of_eq {s : String} {json : Json} (h : json = .string s) :
    asText? json.document = some s := by
  rw [h]
  rfl

theorem Document.asList?_of_eq {keys : List String} {json : Json}
    (h : json = .array (keys.map .string)) : asList? asText? json.document = some keys := by
  rw [h]
  exact asList?_map fun _ _ => rfl

theorem ColumnType.ofDocument?_of_eq {type : ColumnType} {json : Json} (h : json = type.toJson) :
    ofDocument? json.document = some type := by
  rw [h]
  cases type <;> decide

theorem Document.exact_ofNat (n : Nat) : Exact (.ofNat n) :=
  .number (isNumber_toString n)

theorem Document.exact_ofOption {α : Type} {toJson : α → Json} {value : Option α}
    (h : ∀ a ∈ value, Exact (toJson a)) : Exact (.ofOption toJson value) := by
  cases value with
  | none => exact .null
  | some a => exact h a rfl

theorem Json.hasOptional_ofOption {α : Type} {fields : List (String × Json)} {key : String}
    {toJson : α → Json} {holds : α → Json → Prop} {value : Option α}
    (hlookup : Keyed.lookup key fields = some (.ofOption toJson value))
    (hholds : ∀ a ∈ value, holds a (toJson a)) : HasOptional fields key holds value := by
  cases value with
  | none => exact .inl ⟨_, hlookup, rfl⟩
  | some a => exact ⟨_, hlookup, hholds a rfl⟩

/-- The name in a table definition, which is the word in small letters. -/
def PartitionBy.key (choice : PartitionBy) : String :=
  String.ofList (choice.word.toList.map Char.toLower)

theorem PartitionBy.ofKey?_of_eq {choice : PartitionBy} {json : Json}
    (h : json = .string choice.key) : (json.document.asName? >>= ofKey?) = some choice := by
  rw [h]
  cases choice <;> decide

def TtlUnit.key (unit : TtlUnit) : String :=
  String.ofList (unit.word.toList.map Char.toLower)

theorem TtlUnit.ofKey?_of_eq {unit : TtlUnit} {json : Json} (h : json = .string unit.key) :
    (json.document.asName? >>= ofKey?) = some unit := by
  rw [h]
  cases unit <;> decide

/-! ### Columns -/

structure SymbolOptions.HasFields (options : SymbolOptions) (fields : List (String × Json)) :
    Prop where
  capacity : HasOptional fields "capacity" (IsNatBelow UInt32.size) options.capacity
  cache : HasOptional fields "cache" (fun b json => json = .bool b) options.cache
  index : HasDefault fields "index" (· = .bool options.index) (options.index = false)
  indexCapacity : HasOptional fields "index_capacity" (IsNatBelow UInt32.size) options.indexCapacity

theorem SymbolOptions.ofDocument?_of_isRecord {options : SymbolOptions} {json : Json}
    (h : IsRecord options.HasFields json) : ofDocument? json.document = some options := by
  obtain ⟨fields, rfl, hnodup, h⟩ := h
  obtain ⟨record, hrecord, hget⟩ :=
    exists_asRecord? ["capacity", "cache", "index", "index_capacity"] hnodup
  have hcapacity := optional?_of_hasOptional asWord? (hget "capacity" (by simp))
    (fun _ _ => asNatBelow?_of_isNatBelow) rfl h.capacity
  have hcache := optional?_of_hasOptional asBool? (hget "cache" (by simp))
    (fun _ _ => asBool?_of_eq) rfl h.cache
  have hindex := withDefault?_of_hasDefault asBool? (hget "index" (by simp)) false
    (fun _ => asBool?_of_eq) Eq.symm h.index
  have hindexCapacity := optional?_of_hasOptional asWord? (hget "index_capacity" (by simp))
    (fun _ _ => asNatBelow?_of_isNatBelow) rfl h.indexCapacity
  refine Option.bind_eq_some_iff.2 ⟨record, hrecord, ?_⟩
  refine Option.bind_eq_some_iff.2 ⟨_, hcapacity, ?_⟩
  refine Option.bind_eq_some_iff.2 ⟨_, hcache, ?_⟩
  refine Option.bind_eq_some_iff.2 ⟨_, hindex, ?_⟩
  refine Option.bind_eq_some_iff.2 ⟨_, hindexCapacity, ?_⟩
  rfl

namespace Column

structure HasMetadata (column : Column) (fields : List (String × Json)) : Prop where
  designated :
    HasDefault fields "designated" (· = .bool column.designated) (column.designated = false)
  symbol : HasOptional fields "symbol" (fun options => IsRecord options.HasFields) column.symbol
  geohashBits : HasOptional fields "geohash_bits" (IsNatBelow UInt8.size) column.geohashBits
  arrayElement :
    HasOptional fields "array_element" (fun type json => json = type.toJson) column.arrayElement

structure HasFields (column : Column) (fields : List (String × Json)) : Prop where
  type : HasField fields "type" (· = column.type.toJson)
  metadata :
    HasDefault fields "metadata" (IsRecord column.HasMetadata) (column = .ofType column.type)

theorem ofMetadata?_of_isRecord {column : Column} {json : Json}
    (h : IsRecord column.HasMetadata json) :
    ofMetadata? column.type json.document = some column := by
  obtain ⟨fields, rfl, hnodup, h⟩ := h
  obtain ⟨record, hrecord, hget⟩ :=
    exists_asRecord? ["designated", "symbol", "geohash_bits", "array_element"] hnodup
  have hdesignated := withDefault?_of_hasDefault asBool? (hget "designated" (by simp)) false
    (fun _ => asBool?_of_eq) Eq.symm h.designated
  have hsymbol := optional?_of_hasOptional SymbolOptions.ofDocument? (hget "symbol" (by simp))
    (fun _ _ => SymbolOptions.ofDocument?_of_isRecord) rfl h.symbol
  have hbits := optional?_of_hasOptional (asNatBelow? UInt8.size) (hget "geohash_bits" (by simp))
    (fun _ _ => asNatBelow?_of_isNatBelow) rfl h.geohashBits
  have helement := optional?_of_hasOptional ColumnType.ofDocument?
    (hget "array_element" (by simp)) (fun _ _ => ColumnType.ofDocument?_of_eq) rfl h.arrayElement
  refine Option.bind_eq_some_iff.2 ⟨record, hrecord, ?_⟩
  refine Option.bind_eq_some_iff.2 ⟨_, hdesignated, ?_⟩
  refine Option.bind_eq_some_iff.2 ⟨_, hsymbol, ?_⟩
  refine Option.bind_eq_some_iff.2 ⟨_, hbits, ?_⟩
  refine Option.bind_eq_some_iff.2 ⟨_, helement, ?_⟩
  rfl

theorem ofDocument?_of_isRecord {column : Column} {json : Json}
    (h : IsRecord column.HasFields json) : ofDocument? json.document = some column := by
  obtain ⟨fields, rfl, hnodup, h⟩ := h
  obtain ⟨record, hrecord, hget⟩ := exists_asRecord? ["type", "metadata"] hnodup
  have htype := required?_of_hasField ColumnType.ofDocument? (hget "type" (by simp))
    (fun _ => ColumnType.ofDocument?_of_eq) h.type
  have hmetadata := withDefault?_of_hasDefault (ofMetadata? column.type)
    (hget "metadata" (by simp)) (ofType column.type) (fun _ => ofMetadata?_of_isRecord) Eq.symm
    h.metadata
  refine Option.bind_eq_some_iff.2 ⟨record, hrecord, ?_⟩
  exact Option.bind_eq_some_iff.2 ⟨column.type, htype, hmetadata⟩

end Column

/-! ### Tables -/

structure Ttl.HasFields (ttl : Ttl) (fields : List (String × Json)) : Prop where
  amount : HasField fields "amount" (IsNatBelow UInt32.size ttl.amount)
  unit : HasField fields "unit" (· = .string ttl.unit.key)

theorem Ttl.ofDocument?_of_isRecord {ttl : Ttl} {json : Json} (h : IsRecord ttl.HasFields json) :
    ofDocument? json.document = some ttl := by
  obtain ⟨fields, rfl, hnodup, h⟩ := h
  obtain ⟨record, hrecord, hget⟩ := exists_asRecord? ["amount", "unit"] hnodup
  have hamount := required?_of_hasField asWord? (hget "amount" (by simp))
    (fun _ => asNatBelow?_of_isNatBelow) h.amount
  have hunit := required?_of_hasField (fun unit => unit.asName? >>= TtlUnit.ofKey?)
    (hget "unit" (by simp)) (fun _ => TtlUnit.ofKey?_of_eq) h.unit
  refine Option.bind_eq_some_iff.2 ⟨record, hrecord, ?_⟩
  refine Option.bind_eq_some_iff.2 ⟨_, hamount, ?_⟩
  refine Option.bind_eq_some_iff.2 ⟨_, hunit, ?_⟩
  rfl

structure TableSettings.HasTuning (settings : TableSettings) (fields : List (String × Json)) :
    Prop where
  maxUncommittedRows :
    HasOptional fields "max_uncommitted_rows" (IsNatBelow UInt32.size) settings.maxUncommittedRows
  maxLag : HasOptional fields "o3_max_lag" (fun lag json => json = .string lag) settings.maxLag

theorem TableSettings.tuning?_of_isRecord {settings : TableSettings} {json : Json}
    (h : IsRecord settings.HasTuning json) :
    tuning? json.document = some (settings.maxUncommittedRows, settings.maxLag) := by
  obtain ⟨fields, rfl, hnodup, h⟩ := h
  obtain ⟨record, hrecord, hget⟩ := exists_asRecord? ["max_uncommitted_rows", "o3_max_lag"] hnodup
  have hrows := optional?_of_hasOptional asWord? (hget "max_uncommitted_rows" (by simp))
    (fun _ _ => asNatBelow?_of_isNatBelow) rfl h.maxUncommittedRows
  have hlag := optional?_of_hasOptional asText? (hget "o3_max_lag" (by simp))
    (fun _ _ => asText?_of_eq) rfl h.maxLag
  refine Option.bind_eq_some_iff.2 ⟨record, hrecord, ?_⟩
  refine Option.bind_eq_some_iff.2 ⟨_, hrows, ?_⟩
  refine Option.bind_eq_some_iff.2 ⟨_, hlag, ?_⟩
  rfl

namespace Table

/-- An object that holds columns under their names, in their order. -/
def HoldsColumns (columns : List (String × Column)) (json : Json) : Prop :=
  ∃ fields, json = .object fields ∧
    List.Forall₂ (fun column field => column.1 = field.1 ∧ IsRecord column.2.HasFields field.2)
      columns fields

theorem asKeyed?_of_holdsColumns {columns : List (String × Column)} {json : Json}
    (h : HoldsColumns columns json) :
    asKeyed? Column.ofDocument? json.document = some (Keyed.ofList columns) := by
  obtain ⟨fields, rfl, h⟩ := h
  have hpairs : (fieldDocuments fields).mapM
      (fun field => do return (← field.1, ← Column.ofDocument? field.2)) = some columns := by
    induction h with
    | nil => rfl
    | @cons column field columns fields hcolumn _ ih =>
      rw [fieldDocuments, List.mapM_cons, ih]
      simp [Column.ofDocument?_of_isRecord hcolumn.2, ← hcolumn.1]
  rw [Json.document, asKeyed?, hpairs, Option.map_some]

/-- What an object holds for the parts of a table. -/
structure HasFields (name : String) (columns : List (String × Column)) (settings : TableSettings)
    (fields : List (String × Json)) : Prop where
  name : HasField fields "name" (· = .string name)
  columns : HasField fields "columns" (HoldsColumns columns)
  partitionBy : HasDefault fields "partition_by" (· = .string settings.partitionBy.key)
    (settings.partitionBy = .none)
  wal : HasOptional fields "wal" (fun b json => json = .bool b) settings.wal
  dedupKeys : HasDefault fields "dedup_keys" (· = .array (settings.dedupKeys.map .string))
    (settings.dedupKeys = [])
  ttl : HasOptional fields "ttl" (fun ttl => IsRecord ttl.HasFields) settings.ttl
  tuning : HasDefault fields "tuning" (IsRecord settings.HasTuning)
    (settings.maxUncommittedRows = none ∧ settings.maxLag = none)

/-- The JSON of a table with these parts. -/
def IsDefinition (name : String) (columns : List (String × Column)) (settings : TableSettings)
    (json : Json) : Prop :=
  Exact json ∧ IsRecord (HasFields name columns settings) json

variable {name : String} {columns : List (String × Column)} {settings : TableSettings} {json : Json}

theorem ofDocument?_of_isRecord (h : IsRecord (HasFields name columns settings) json) :
    ofDocument? json.document = some { settings with name, columns := .ofList columns } := by
  obtain ⟨fields, rfl, hnodup, h⟩ := h
  obtain ⟨record, hrecord, hget⟩ := exists_asRecord?
    ["name", "columns", "partition_by", "wal", "dedup_keys", "ttl", "tuning"] hnodup
  have htuning := withDefault?_of_hasDefault TableSettings.tuning? (hget "tuning" (by simp))
    (none, none) (fun _ => TableSettings.tuning?_of_isRecord)
    (fun ⟨hrows, hlag⟩ => by rw [hrows, hlag]) h.tuning
  have hname := required?_of_hasField asText? (hget "name" (by simp))
    (fun _ => asText?_of_eq) h.name
  have hcolumns := required?_of_hasField (asKeyed? Column.ofDocument?)
    (hget "columns" (by simp)) (fun _ => asKeyed?_of_holdsColumns) h.columns
  have hpartition := withDefault?_of_hasDefault (fun word => word.asName? >>= PartitionBy.ofKey?)
    (hget "partition_by" (by simp)) .none (fun _ => PartitionBy.ofKey?_of_eq) Eq.symm h.partitionBy
  have hwal := optional?_of_hasOptional asBool? (hget "wal" (by simp))
    (fun _ _ => asBool?_of_eq) rfl h.wal
  have hkeys := withDefault?_of_hasDefault (asList? asText?) (hget "dedup_keys" (by simp)) []
    (fun _ => asList?_of_eq) Eq.symm h.dedupKeys
  have httl := optional?_of_hasOptional Ttl.ofDocument? (hget "ttl" (by simp))
    (fun _ _ => Ttl.ofDocument?_of_isRecord) rfl h.ttl
  refine Option.bind_eq_some_iff.2 ⟨record, hrecord, ?_⟩
  refine Option.bind_eq_some_iff.2 ⟨_, htuning, ?_⟩
  refine Option.bind_eq_some_iff.2 ⟨_, hname, ?_⟩
  refine Option.bind_eq_some_iff.2 ⟨_, hcolumns, ?_⟩
  refine Option.bind_eq_some_iff.2 ⟨_, hpartition, ?_⟩
  refine Option.bind_eq_some_iff.2 ⟨_, hwal, ?_⟩
  refine Option.bind_eq_some_iff.2 ⟨_, hkeys, ?_⟩
  refine Option.bind_eq_some_iff.2 ⟨_, httl, ?_⟩
  rfl

theorem leading?_toText (h : IsDefinition name columns settings json) :
    leading? json.toText = some ({ settings with name, columns := .ofList columns }, []) := by
  refine Option.bind_eq_some_iff.2 ⟨_, Document.leading?_toText h.1, ?_⟩
  exact Option.bind_eq_some_iff.2 ⟨_, ofDocument?_of_isRecord h.2, rfl⟩

/-- Of columns that share a name, the last one counts, in the place of the first. -/
theorem ofText?_eq_ok_iff_merged (h : IsDefinition name columns settings json) {table : Table} :
    ofText? json.toText = .ok table ↔
      Valid name (Keyed.ofList columns).entries settings ∧
        table = ofParts name settings (Keyed.ofList columns).nodup := by
  have hvalid : (ofParts name settings (Keyed.ofList columns).nodup).check = .ok () ↔
      Valid name (Keyed.ofList columns).entries settings :=
    check_eq_ok_iff
  rw [ofText?, leading?_toText h, ← hvalid]
  rw [← Check.mapError_eq_ok_iff (f := DefinitionError.refused)]
  change ((ofParts name settings (Keyed.ofList columns).nodup).check.mapError
    DefinitionError.refused >>= fun _ =>
      .ok (ofParts name settings (Keyed.ofList columns).nodup)) = .ok table ↔ _
  rw [Check.bind_eq_ok_iff]
  constructor
  · rintro ⟨_, hcheck, htable⟩
    exact ⟨hcheck, (Except.ok.inj htable).symm⟩
  · rintro ⟨hcheck, rfl⟩
    exact ⟨(), hcheck, rfl⟩

theorem ofText?_eq_ok_iff (h : IsDefinition name columns settings json)
    (hnames : (columns.map Prod.fst).Nodup) {table : Table} :
    ofText? json.toText = .ok table ↔
      Valid name columns settings ∧ table = ofParts name settings hnames := by
  have hparts : ofParts name settings (Keyed.ofList columns).nodup =
      ofParts name settings hnames := by
    simp only [ofParts, Keyed.ofList_of_nodup hnames]
  rw [ofText?_eq_ok_iff_merged h, hparts, Keyed.ofList_of_nodup hnames]

/-! ### A definition with all fields -/

end Table

/-- Numbers that fit into the bits they are stored in. -/
structure Column.FitsWidths (column : Column) : Prop where
  capacity : ∀ options ∈ column.symbol, ∀ n ∈ options.capacity, n < UInt32.size
  indexCapacity : ∀ options ∈ column.symbol, ∀ n ∈ options.indexCapacity, n < UInt32.size
  geohashBits : ∀ bits ∈ column.geohashBits, bits < UInt8.size

structure TableSettings.FitsWidths (settings : TableSettings) : Prop where
  ttl : ∀ ttl ∈ settings.ttl, ttl.amount < UInt32.size
  maxUncommittedRows : ∀ n ∈ settings.maxUncommittedRows, n < UInt32.size

theorem SymbolOptions.exact_toJson (options : SymbolOptions) : Exact options.toJson := by
  refine .object ?_
  simp only [List.forall_mem_cons]
  exact ⟨exact_ofOption fun n _ => exact_ofNat n, exact_ofOption fun b _ => .bool b, .bool _,
    exact_ofOption fun n _ => exact_ofNat n, nofun⟩

theorem Column.exact_toJson (column : Column) : Exact column.toJson := by
  refine .object ?_
  simp only [List.forall_mem_cons]
  refine ⟨.string _, .object ?_, nofun⟩
  simp only [List.forall_mem_cons]
  exact ⟨.bool _, exact_ofOption fun options _ => options.exact_toJson,
    exact_ofOption fun n _ => exact_ofNat n, exact_ofOption fun _ _ => .string _, nofun⟩

theorem Column.isRecord_toJson {column : Column} (h : column.FitsWidths) :
    IsRecord column.HasFields column.toJson := by
  have hsymbol : ∀ options ∈ column.symbol, IsRecord options.HasFields options.toJson := by
    intro options hoptions
    refine ⟨_, rfl, by simp, ?_, ?_, ?_, ?_⟩
    · exact hasOptional_ofOption rfl fun n hn => ⟨h.capacity options hoptions n hn, rfl⟩
    · exact hasOptional_ofOption rfl fun _ _ => rfl
    · exact hasDefault_of_lookup rfl rfl
    · exact hasOptional_ofOption rfl fun n hn => ⟨h.indexCapacity options hoptions n hn, rfl⟩
  refine ⟨_, rfl, by simp, ⟨_, rfl, rfl⟩, hasDefault_of_lookup rfl ?_⟩
  refine ⟨_, rfl, by simp, ?_, ?_, ?_, ?_⟩
  · exact hasDefault_of_lookup rfl rfl
  · exact hasOptional_ofOption rfl hsymbol
  · exact hasOptional_ofOption rfl fun bits hbits => ⟨h.geohashBits bits hbits, rfl⟩
  · exact hasOptional_ofOption rfl fun _ _ => rfl

def Ttl.toJson (ttl : Ttl) : Json :=
  .object [("amount", .ofNat ttl.amount), ("unit", .string ttl.unit.key)]

namespace Table

def partsToJson (name : String) (columns : List (String × Column)) (settings : TableSettings) :
    Json :=
  .object [
    ("name", .string name),
    ("columns", .object (columns.map fun column => (column.1, column.2.toJson))),
    ("partition_by", .string settings.partitionBy.key),
    ("wal", .ofOption .bool settings.wal),
    ("dedup_keys", .array (settings.dedupKeys.map .string)),
    ("ttl", .ofOption Ttl.toJson settings.ttl),
    ("tuning", .object [
      ("max_uncommitted_rows", .ofOption .ofNat settings.maxUncommittedRows),
      ("o3_max_lag", .ofOption .string settings.maxLag)])]

theorem exact_partsToJson (name : String) (columns : List (String × Column))
    (settings : TableSettings) : Exact (partsToJson name columns settings) := by
  have hcolumns : Exact (.object (columns.map fun column => (column.1, column.2.toJson))) := by
    refine .object ?_
    simp only [List.forall_mem_map]
    exact fun column _ => column.2.exact_toJson
  have hkeys : Exact (.array (settings.dedupKeys.map .string)) := by
    refine .array ?_
    simp only [List.forall_mem_map]
    exact fun key _ => .string key
  have httl : ∀ ttl : Ttl, Exact ttl.toJson := by
    intro ttl
    refine .object ?_
    simp only [List.forall_mem_cons]
    exact ⟨exact_ofNat _, .string _, nofun⟩
  refine .object ?_
  simp only [List.forall_mem_cons]
  refine ⟨.string _, hcolumns, .string _, exact_ofOption fun b _ => .bool b, hkeys,
    exact_ofOption fun ttl _ => httl ttl, .object ?_, nofun⟩
  simp only [List.forall_mem_cons]
  exact ⟨exact_ofOption fun n _ => exact_ofNat n, exact_ofOption fun _ _ => .string _, nofun⟩

theorem isDefinition_partsToJson {name : String} {columns : List (String × Column)}
    {settings : TableSettings} (hcolumns : ∀ column ∈ columns, column.2.FitsWidths)
    (hsettings : settings.FitsWidths) :
    IsDefinition name columns settings (partsToJson name columns settings) := by
  have hholds : HoldsColumns columns
      (.object (columns.map fun column => (column.1, column.2.toJson))) := by
    refine ⟨_, rfl, List.forall₂_map_right_iff.2 ?_⟩
    rw [List.forall₂_same]
    exact fun column hcolumn => ⟨rfl, Column.isRecord_toJson (hcolumns column hcolumn)⟩
  have httl : ∀ ttl ∈ settings.ttl, IsRecord ttl.HasFields ttl.toJson := fun ttl h =>
    ⟨_, rfl, by simp, ⟨_, rfl, hsettings.ttl ttl h, rfl⟩, ⟨_, rfl, rfl⟩⟩
  refine ⟨exact_partsToJson name columns settings, _, rfl, by simp, ?_, ?_, ?_, ?_, ?_, ?_, ?_⟩
  · exact ⟨_, rfl, rfl⟩
  · exact ⟨_, rfl, hholds⟩
  · exact hasDefault_of_lookup rfl rfl
  · exact hasOptional_ofOption rfl fun _ _ => rfl
  · exact hasDefault_of_lookup rfl rfl
  · exact hasOptional_ofOption rfl httl
  · refine hasDefault_of_lookup rfl ⟨_, rfl, by simp, ?_, ?_⟩
    · exact hasOptional_ofOption rfl fun n hn => ⟨hsettings.maxUncommittedRows n hn, rfl⟩
    · exact hasOptional_ofOption rfl fun _ _ => rfl

/-- A declaration and the reading of any JSON of the same parts accept the valid parts, no others,
and give the same table. There is such JSON when the numbers fit into the bits they are stored
in. -/
theorem validation_exact (name : String) {columns : List (String × Column)}
    (settings : TableSettings) (hnames : (columns.map Prod.fst).Nodup) :
    ((∃ table, declare name columns settings = .ok table) ↔ Valid name columns settings) ∧
      (∀ json, IsDefinition name columns settings json →
        ((∃ table, ofText? json.toText = .ok table) ↔ Valid name columns settings) ∧
          ∀ table, declare name columns settings = .ok table ↔ ofText? json.toText = .ok table) ∧
      ((∀ column ∈ columns, column.2.FitsWidths) → settings.FitsWidths →
        ∃ json, IsDefinition name columns settings json) := by
  refine ⟨?_, fun json hjson => ⟨?_, fun table => ?_⟩, fun hcolumns hsettings => ?_⟩
  · simp only [declare_eq_ok_iff hnames, exists_and_left, exists_eq, and_true]
  · simp only [ofText?_eq_ok_iff hjson hnames, exists_and_left, exists_eq, and_true]
  · rw [declare_eq_ok_iff hnames, ofText?_eq_ok_iff hjson hnames]
  · exact ⟨_, isDefinition_partsToJson hcolumns hsettings⟩

/-- A partitioned table with a deduplication key is valid on both routes. -/
theorem validation_exact_trades :
    let columns := [
      ("ts", { Column.ofType .timestamp with designated := true }), ("price", .ofType .double)]
    let settings := { TableSettings.default with
      partitionBy := .day, dedupKeys := ["ts"], maxLag := some "1s" }
    (columns.map Prod.fst).Nodup ∧ ∃ json table, IsDefinition "trades" columns settings json ∧
      declare "trades" columns settings = .ok table ∧ ofText? json.toText = .ok table := by
  intro columns settings
  have hnames : (columns.map Prod.fst).Nodup := by decide
  have hvalid : Valid "trades" columns settings :=
    { name_ne := by decide
      columns_ne := nofun
      column := by
        simp only [columns, List.forall_mem_cons]
        exact ⟨⟨fun _ => .inl rfl, nofun, nofun, nofun⟩, ⟨nofun, nofun, nofun, nofun⟩, by simp⟩
      timestamps := by decide
      partitionBy := fun _ => ⟨_, List.mem_cons_self, rfl⟩
      wal := nofun
      dedupKeys := fun _ =>
        ⟨by decide, by decide, ⟨_, List.mem_cons_self, rfl, by decide⟩, nofun, nofun⟩
      ttl := nofun
      maxLag := by
        intro lag hlag
        obtain rfl := Option.some.inj hlag
        decide }
  have hcolumns : ∀ column ∈ columns, column.2.FitsWidths := by
    simp only [columns, List.forall_mem_cons]
    exact ⟨⟨nofun, nofun, nofun⟩, ⟨nofun, nofun, nofun⟩, by simp⟩
  obtain ⟨hdeclared, hread, hjson⟩ :=
    validation_exact "trades" settings hnames
  obtain ⟨json, hdefinition⟩ := hjson hcolumns ⟨nofun, nofun⟩
  obtain ⟨table, htable⟩ := hdeclared.2 hvalid
  exact ⟨hnames, json, table, hdefinition, htable, ((hread json hdefinition).2 table).1 htable⟩

end Table

end SeriesSql
