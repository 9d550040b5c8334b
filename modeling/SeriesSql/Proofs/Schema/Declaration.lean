import Mathlib
import SeriesSql.Proofs.Check
import SeriesSql.Proofs.Sql.Legible
import SeriesSql.Schema.Operation

/-!
# What the declaration of a table shows

The declaration of a column shows its name and the text of its type, because no type but that of a
geohash has a parenthesis in it, and none a comma. The settings of a table show the designated
timestamp and how the table is stored: each clause starts with words that no later clause starts
with, so it is clear which of them are there.
-/

namespace SeriesSql

open Check

/-! ### Types of columns -/

/-- The type of a column as a statement declares it. -/
@[ext] structure TypeText where
  text : String
  declares : ∃ column : Column, column.ddlType = .ok text

namespace TypeText

/-- Whether a character is neither a comma nor a parenthesis. -/
def isPlain (c : Char) : Bool :=
  c != ',' && c != '(' && c != ')'

/-- The text of a type, with what stands in parentheses after its name. -/
def read : Reader String := fun cs =>
  match cs.span isPlain with
  | (name, '(' :: cs) =>
    let (inner, cs) := cs.span (· != ')')
    some (String.ofList (name ++ '(' :: inner ++ [')']), cs.tail)
  | (name, cs) => some (String.ofList name, cs)

theorem isPlain_of_isDigit {c : Char} (hc : c.isDigit) : isPlain c := by
  simp only [isPlain, Bool.and_eq_true, bne_iff_ne]
  refine ⟨⟨?_, ?_⟩, ?_⟩ <;> rintro rfl <;> exact absurd hc (by decide)

theorem plain_nat (n : Nat) : (toString n).toList.all isPlain := by
  have hdigits : (toString n).toList = Nat.toDigits 10 n := Nat.toList_repr
  rw [hdigits, List.all_eq_true]
  exact fun c hc => isPlain_of_isDigit ((Numeral.digits_toDigits n).2 c hc)

theorem plain_append {first second : String} (hfirst : first.toList.all isPlain)
    (hsecond : second.toList.all isPlain) : (first ++ second).toList.all isPlain := by
  rw [String.toList_append, List.all_append, hfirst, hsecond]
  rfl

theorem plain_option {α : Type} {write : α → String} (h : ∀ a, (write a).toList.all isPlain)
    (part : Option α) : ((part.map write).getD "").toList.all isPlain := by
  cases part with
  | none => rfl
  | some a => exact h a

theorem plain_symbol (options : SymbolOptions) : options.ddl.toList.all isPlain := by
  have hcapacity : ∀ n : Nat, (" CAPACITY " ++ toString n).toList.all isPlain := fun n =>
    plain_append rfl (plain_nat n)
  have hcache : ∀ on : Bool, (if on then " CACHE" else " NOCACHE").toList.all isPlain := by
    intro on
    cases on <;> rfl
  refine plain_append (plain_append (plain_option hcapacity _) (plain_option hcache _)) ?_
  cases options.index with
  | false => rfl
  | true => exact @plain_append " INDEX" _ rfl (plain_option hcapacity _)

theorem plain_name (type : ColumnType) : type.name.toList.all isPlain := by
  cases type <;> rfl

/-- The type of a geohash has its length in parentheses, and no other type has any. -/
theorem plain_or_geohash {column : Column} {text : String} (h : column.ddlType = .ok text) :
    text.toList.all isPlain ∨
      ∃ inner, (∀ c ∈ inner, (c != ')') = true) ∧
        text.toList = "GEOHASH".toList ++ '(' :: inner ++ [')'] := by
  rw [Column.ddlType] at h
  split at h
  · obtain rfl := Except.ok.inj h
    exact .inl (@plain_append "SYMBOL" _ rfl (plain_option plain_symbol _))
  · split at h
    · rename_i bits _
      obtain rfl := Except.ok.inj h
      refine .inr ⟨Nat.toDigits 10 bits ++ ['b'], fun c hc => ?_, ?_⟩
      · rw [bne_iff_ne]
        rintro rfl
        rcases List.mem_append.1 hc with hc | hc
        · exact absurd ((Numeral.digits_toDigits bits).2 _ hc) (by decide)
        · exact absurd hc (by decide)
      · change ("GEOHASH(" ++ toString bits ++ "b)").toList = _
        simp
    · cases h
  · split at h
    · rename_i element _
      obtain rfl := Except.ok.inj h
      exact .inl (plain_append (plain_name element) rfl)
    · cases h
  · obtain rfl := Except.ok.inj h
    exact .inl rfl
  · obtain rfl := Except.ok.inj h
    exact .inl (plain_name column.type)

theorem read_append {column : Column} {text : String} (h : column.ddlType = .ok text)
    {rest : List Char} (hrest : Starts [", "] rest) :
    read (text.toList ++ rest) = some (text, rest) := by
  rcases plain_or_geohash h with hplain | ⟨inner, hinner, htext⟩
  · have hhead : ∀ c ∈ rest.head?, c = ')' ∨ c = ',' := by
      rcases hrest with rfl | ⟨next, hnext, tail, rfl⟩
      · rintro c ⟨⟩
      · simp only [List.mem_cons, List.not_mem_nil, or_false] at hnext
        rcases hnext with rfl | rfl <;> rintro c ⟨⟩
        · exact .inl rfl
        · exact .inr rfl
    have hstop : ∀ c ∈ rest.head?, isPlain c = false := by
      intro c hc
      rcases hhead c hc with rfl | rfl <;> rfl
    rw [read, span_append (List.all_eq_true.1 hplain) hstop]
    split
    · rename_i name more heq
      obtain ⟨-, rfl⟩ := Prod.mk.inj heq
      exact absurd (hhead '(' rfl) (by decide)
    · rename_i heq
      obtain ⟨rfl, rfl⟩ := Prod.mk.inj heq
      rw [String.ofList_toList]
  · have hname : ∀ c ∈ "GEOHASH".toList, isPlain c := List.all_eq_true.1 rfl
    have hopen : ∀ c ∈ ('(' :: (inner ++ ')' :: rest)).head?, isPlain c = false := by
      rintro c ⟨⟩
      rfl
    have hclose : ∀ c ∈ (')' :: rest).head?, (c != ')') = false := by
      rintro c ⟨⟩
      rfl
    have hcs : text.toList ++ rest = "GEOHASH".toList ++ '(' :: (inner ++ ')' :: rest) := by
      rw [htext]
      simp
    rw [read, hcs, span_append hname hopen]
    simp only
    rw [span_append hinner hclose, ← String.ofList_toList (s := text), htext]
    rfl

theorem legible : Legible TypeText.text [", "] := by
  intro a b rest rest' hrest hrest' heq
  obtain ⟨column, hcolumn⟩ := a.declares
  obtain ⟨column', hcolumn'⟩ := b.declares
  have hread := (read_append hcolumn hrest).symm.trans
    ((congrArg read heq).trans (read_append hcolumn' hrest'))
  obtain ⟨htext, hrests⟩ := Prod.mk.inj (Option.some.inj hread)
  exact ⟨TypeText.ext htext, hrests⟩

end TypeText

/-! ### Columns -/

def columnText (column : String × TypeText) : String :=
  Token.name column.1 ++ " " ++ column.2.text

theorem legible_columnText : Legible columnText [", "] :=
  (legible_name rfl).pair TypeText.legible

theorem apart_columnText : Apart columnText [] := by
  rintro ⟨name, type⟩ rest hrest ⟨tail, rfl⟩
  refine apart_name rfl (a := name) hrest ⟨(" " ++ type.text).toList ++ tail, ?_⟩
  simp only [columnText, String.toList_append, List.append_assoc]

/-- The name of a column and its type as it is declared, if it can be. -/
def declared (entry : String × Column) : String × Except SqlError String :=
  (entry.1, entry.2.ddlType)

theorem exists_type {entry : String × Column} {text : String}
    (h : Table.columnDdl entry = .ok text) :
    ∃ type : TypeText, entry.2.ddlType = .ok type.text ∧ text = columnText (entry.1, type) := by
  obtain ⟨type, htype, rfl⟩ := map_eq_ok_iff.1 h
  exact ⟨⟨type, entry.2, htype⟩, htype, rfl⟩

theorem exists_types {entries : List (String × Column)} {columns : List String}
    (h : entries.mapM Table.columnDdl = .ok columns) :
    ∃ types : List (String × TypeText), columns = types.map columnText ∧
      entries.map declared = types.map fun column => (column.1, .ok column.2.text) := by
  induction entries generalizing columns with
  | nil =>
    obtain rfl := Except.ok.inj h
    exact ⟨[], rfl, rfl⟩
  | cons entry entries ih =>
    rw [List.mapM_cons, bind_eq_ok_iff] at h
    obtain ⟨first, hfirst, h⟩ := h
    obtain ⟨others, hothers, h⟩ := bind_eq_ok_iff.1 h
    obtain rfl := Except.ok.inj h
    obtain ⟨types, rfl, htypes⟩ := ih hothers
    obtain ⟨type, htype, rfl⟩ := exists_type hfirst
    refine ⟨(entry.1, type) :: types, rfl, ?_⟩
    rw [List.map_cons, List.map_cons, htypes, declared, htype]

/-! ### Types that cannot be declared -/

/-- The type of a column lacks what a statement needs of it. -/
def Column.Incomplete (column : Column) : Prop :=
  column.type = .geohash ∧ column.geohashBits = none ∨
    column.type = .array ∧ column.arrayElement = none

theorem Column.exists_ddlType_iff {column : Column} :
    (∃ text, column.ddlType = .ok text) ↔ ¬ column.Incomplete := by
  obtain ⟨type, designated, symbol, bits, element⟩ := column
  cases type <;> cases bits <;> cases element <;> simp [ddlType, Incomplete]

theorem Table.exists_columnDdl_iff {entries : List (String × Column)} :
    (∃ columns, entries.mapM columnDdl = .ok columns) ↔
      ∀ entry ∈ entries, ¬ entry.2.Incomplete := by
  rw [exists_mapM_eq_ok_iff]
  refine forall₂_congr fun entry _ => ?_
  rw [← Column.exists_ddlType_iff]
  constructor
  · rintro ⟨_, h⟩
    obtain ⟨type, htype, -⟩ := map_eq_ok_iff.1 h
    exact ⟨type, htype⟩
  · rintro ⟨type, htype⟩
    exact ⟨_, map_eq_ok_iff.2 ⟨type, htype, rfl⟩⟩

/-! ### Settings -/

def timestampClause (name : Option String) : String :=
  (name.map fun name => " timestamp(" ++ Token.name name ++ ")").getD ""

def ttlClause (ttl : Option Ttl) : String :=
  (ttl.map fun ttl => " TTL " ++ ttl.toText).getD ""

def walClause (wal : Option Bool) : String :=
  (wal.map fun on => if on then " WAL" else " BYPASS WAL").getD ""

def dedupClause (keys : List String) : String :=
  if keys.isEmpty then "" else " DEDUP UPSERT KEYS(" ++ Token.names keys ++ ")"

def tuningClause (rows : Option Nat) (lag : Option String) : String :=
  let parameters :=
    (rows.map fun rows => "maxUncommittedRows=" ++ toString rows).toList ++
      (lag.map fun lag => "o3MaxLag=" ++ lag).toList
  if parameters.isEmpty then "" else " WITH " ++ ", ".intercalate parameters

theorem Table.settingsDdl_eq (table : Table) :
    table.settingsDdl =
      timestampClause table.timestamp? ++ " PARTITION BY " ++ table.partitionBy.word ++
        ttlClause table.ttl ++ walClause table.wal ++ dedupClause table.dedupKeys ++
        tuningClause table.maxUncommittedRows table.maxLag :=
  rfl

theorem legible_timestampClause : Legible timestampClause [" PARTITION BY "] := by
  have hname : Legible Token.name [")"] := legible_name rfl
  exact (hname.prepend _).append.option <|
    apart_of_clash fun name => ⟨" timestamp(", by simp, rfl⟩

theorem prefixFree_partitionWord : PrefixFree PartitionBy.word := by
  apply prefixFree_of_choice PartitionBy.all
  intro partition rest
  cases partition <;> rfl

theorem prefixFree_unitWord : PrefixFree TtlUnit.word := by
  apply prefixFree_of_choice TtlUnit.all
  intro unit rest
  cases unit <;> rfl

theorem legible_ttl (texts : List String) : Legible Ttl.toText texts := by
  have hpair : Legible (fun p : Nat × TtlUnit => toString p.1 ++ " " ++ p.2.word) texts :=
    (legible_nat rfl).pair (.of_prefixFree prefixFree_unitWord)
  intro ttl ttl' rest rest' hrest hrest' heq
  obtain ⟨hparts, hrests⟩ := hpair hrest hrest'
    (a := (ttl.amount, ttl.unit)) (b := (ttl'.amount, ttl'.unit)) heq
  obtain ⟨hamount, hunit⟩ := Prod.mk.inj hparts
  cases ttl
  cases ttl'
  exact ⟨congrArg₂ Ttl.mk hamount hunit, hrests⟩

/-- The clauses behind the time to live. -/
def walTexts : List String :=
  [" WAL", " BYPASS WAL", " DEDUP UPSERT KEYS(", " WITH "]

theorem legible_ttlClause : Legible ttlClause walTexts :=
  .option ((legible_ttl walTexts).prepend _) <|
    apart_of_clash fun ttl => ⟨" TTL ", by simp, rfl⟩

theorem legible_walClause : Legible walClause [" DEDUP UPSERT KEYS(", " WITH "] := by
  apply Legible.option
  · apply Legible.of_prefixFree
    apply prefixFree_of_choice [true, false]
    intro on rest
    cases on <;> rfl
  · apply apart_of_clash
    intro on
    cases on
    · exact ⟨" BYPASS WAL", by simp, rfl⟩
    · exact ⟨" WAL", by simp, rfl⟩

theorem legible_names : Legible Token.names [")"] :=
  .list (legible_name rfl) (apart_name rfl) rfl

theorem legible_dedupClause : Legible dedupClause [" WITH "] := by
  have hkeys : Legible (fun keys => " DEDUP UPSERT KEYS(" ++ Token.names keys ++ ")") [" WITH "] :=
    (legible_names.prepend _).append
  have hclause := hkeys.option <| apart_of_clash fun keys => ⟨" DEDUP UPSERT KEYS(", by simp, rfl⟩
  have hinjective :
      Function.Injective fun keys : List String => if keys.isEmpty then none else some keys := by
    intro keys keys' h
    cases keys <;> cases keys' <;> simp_all
  have heq : dedupClause = fun keys => ((if keys.isEmpty then none else some keys).map
      fun keys => " DEDUP UPSERT KEYS(" ++ Token.names keys ++ ")").getD "" := by
    funext keys
    cases keys <;> rfl
  rw [heq]
  exact hclause.comap hinjective

/-- Nothing has to show where a text ends behind which nothing comes. -/
theorem option_inj {before : String} (hbefore : before ≠ "") {part part' : Option String}
    (h : (part.map fun text => before ++ text).getD "" =
      (part'.map fun text => before ++ text).getD "") : part = part' := by
  match part, part' with
  | none, none => rfl
  | some text, none => simp_all
  | none, some text => simp_all
  | some text, some text' => simp_all

theorem tuningClause_none (lag : Option String) :
    tuningClause none lag = (lag.map fun lag => " WITH o3MaxLag=" ++ lag).getD "" := by
  cases lag with
  | none => rfl
  | some lag =>
    rw [← String.toList_inj]
    simp [tuningClause]

theorem tuningClause_some (rows : Nat) (lag : Option String) :
    tuningClause (some rows) lag =
      " WITH maxUncommittedRows=" ++ toString rows ++
        (lag.map fun lag => ", o3MaxLag=" ++ lag).getD "" := by
  rw [← String.toList_inj]
  cases lag <;> simp [tuningClause]

theorem tuningClause_none_ne (lag lag' : Option String) (rows : Nat) :
    tuningClause none lag ≠ tuningClause (some rows) lag' := by
  rw [tuningClause_none, tuningClause_some, ← String.toList_inj.ne]
  cases lag <;> simp

/-- The settings of how the table takes rows in come last. -/
theorem tuningClause_inj {rows rows' : Option Nat} {lag lag' : Option String}
    (h : tuningClause rows lag = tuningClause rows' lag') : rows = rows' ∧ lag = lag' := by
  match rows, rows' with
  | none, none =>
    rw [tuningClause_none, tuningClause_none] at h
    exact ⟨rfl, option_inj (by decide) h⟩
  | none, some rows => exact absurd h (tuningClause_none_ne lag lag' rows)
  | some rows, none => exact absurd h.symm (tuningClause_none_ne lag' lag rows)
  | some rows, some rows' =>
    rw [tuningClause_some, tuningClause_some, ← String.toList_inj] at h
    simp only [String.toList_append, List.append_assoc, List.append_cancel_left_eq] at h
    have hstarts : ∀ lag : Option String,
        Starts [", o3MaxLag="] ((lag.map fun lag => ", o3MaxLag=" ++ lag).getD "").toList := by
      intro lag
      have hlag : ∀ lag, ", o3MaxLag=".toList <+: (", o3MaxLag=" ++ lag).toList := by simp
      have hclause := Starts.option hlag lag (@Starts.nil [])
      rwa [List.append_nil] at hclause
    obtain ⟨rfl, hlag⟩ := legible_nat rfl (hstarts lag) (hstarts lag') h
    exact ⟨rfl, option_inj (by decide) (String.toList_inj.1 hlag)⟩

theorem starts_tuningClause (rows : Option Nat) (lag : Option String) :
    Starts [" WITH "] (tuningClause rows lag).toList := by
  rw [tuningClause]
  split
  · exact .nil
  · rw [String.toList_append]
    exact .append (List.mem_singleton_self _) _

theorem starts_dedupClause (keys : List String) {rest : List Char}
    (hrest : Starts [" WITH "] rest) :
    Starts [" DEDUP UPSERT KEYS(", " WITH "] ((dedupClause keys).toList ++ rest) := by
  rw [dedupClause]
  split
  · exact hrest.mono (List.subset_cons_self _ _)
  · simp only [String.toList_append, List.append_assoc]
    exact .append List.mem_cons_self _

theorem starts_walClause (wal : Option Bool) {rest : List Char}
    (hrest : Starts [" DEDUP UPSERT KEYS(", " WITH "] rest) :
    Starts walTexts ((walClause wal).toList ++ rest) := by
  match wal with
  | none => exact hrest.mono (by simp [walTexts])
  | some true => exact @Starts.append _ " WAL" (by decide) _
  | some false => exact @Starts.append _ " BYPASS WAL" (by decide) _

theorem TableSettings.eq_of_parts {settings settings' : TableSettings}
    (hpartition : settings.partitionBy = settings'.partitionBy)
    (hwal : settings.wal = settings'.wal) (hkeys : settings.dedupKeys = settings'.dedupKeys)
    (httl : settings.ttl = settings'.ttl)
    (hrows : settings.maxUncommittedRows = settings'.maxUncommittedRows)
    (hlag : settings.maxLag = settings'.maxLag) : settings = settings' := by
  cases settings
  cases settings'
  simp_all

/-- The settings show the designated timestamp and how the table is stored. -/
theorem Table.settingsDdl_inj {table table' : Table} (h : table.settingsDdl = table'.settingsDdl) :
    table.timestamp? = table'.timestamp? ∧ table.toTableSettings = table'.toTableSettings := by
  -- What follows each clause starts with one of the later clauses.
  have htuning := fun table : Table =>
    starts_tuningClause table.maxUncommittedRows table.maxLag
  have hdedup := fun table : Table => starts_dedupClause table.dedupKeys (htuning table)
  have hwal := fun table : Table => starts_walClause table.wal (hdedup table)
  rw [settingsDdl_eq, settingsDdl_eq, ← String.toList_inj] at h
  simp only [String.toList_append, List.append_assoc] at h
  obtain ⟨htimestamp, h⟩ := legible_timestampClause (.append (List.mem_singleton_self _) _)
    (.append (List.mem_singleton_self _) _) h
  obtain ⟨hpartitionEq, h⟩ := prefixFree_partitionWord (List.append_cancel_left h)
  obtain ⟨httlEq, h⟩ := legible_ttlClause (hwal table) (hwal table') h
  obtain ⟨hwalEq, h⟩ := legible_walClause (hdedup table) (hdedup table') h
  obtain ⟨hkeysEq, h⟩ := legible_dedupClause (htuning table) (htuning table') h
  obtain ⟨hrowsEq, hlagEq⟩ := tuningClause_inj (String.toList_inj.1 h)
  exact ⟨htimestamp, TableSettings.eq_of_parts hpartitionEq hwalEq hkeysEq httlEq hrowsEq hlagEq⟩

end SeriesSql
