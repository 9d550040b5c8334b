import Mathlib
import SeriesSql.Builder.Select
import SeriesSql.Proofs.Sql.Reference

/-!
# The place of joins among the calls of a builder

The first join to a select qualifies the columns that came before it, and every column that comes
after a join is qualified when it is made. Both ways agree, so it does not matter where among the
other calls the joins stand.

A call builds its expressions from the columns that the builder hands out. Such an expression is a
function of these columns, and qualifying what it makes of bare columns is the same as giving it
qualified ones. The other calls therefore act on a select without joins as on one with them, and
what a run of calls leaves is determined by the joins and the other calls by themselves.
-/

namespace SeriesSql

namespace SelectBuilder

/-- Whether a table declares a column that none of some labels hides. -/
def Unhidden (table : Table) (labels : List String) (name : String) : Prop :=
  (table.column? name).isSome ∧ name ∉ labels

/-- The ways to write an expression from the columns that a builder of a table hands out. The
table's columns come from there, a bare column is none of the table's, and a nested select is
fixed. -/
inductive Written (table : Table) (labels : List String) : (SourceColumns → Expr) → Prop
  | own {name : String} (hname : Unhidden table labels name) :
    Written table labels fun columns => (columns.column name).reference
  | ownLiteral (name : String) (value : Value) :
    Written table labels fun columns => (columns.column name).literal value
  | bare {name : String} (hname : table.column? name = none) :
    Written table labels fun _ => .column none name
  | qualified (qualifier name : String) :
    Written table labels fun _ => .column (some qualifier) name
  | literal (value : Value) (type : ColumnType) :
    Written table labels fun _ => .literal value type
  | binary (op : BinaryOp) {left right : SourceColumns → Expr}
    (hleft : Written table labels left) (hright : Written table labels right) :
    Written table labels fun columns => .binary op (left columns) (right columns)
  | unary (op : UnaryOp) {operand : SourceColumns → Expr}
    (hoperand : Written table labels operand) :
    Written table labels fun columns => .unary op (operand columns)
  | call (kind : CallKind) (function : String) (label : Option String)
    {args : List (SourceColumns → Expr)} (hargs : ∀ arg ∈ args, Written table labels arg) :
    Written table labels fun columns => .call kind function (args.map (· columns)) label
  | subquery (select : Select) :
    Written table labels fun _ => .subquery select
  | inInterval {subject : SourceColumns → Expr} (interval : String)
    (hsubject : Written table labels subject) :
    Written table labels fun columns => .inInterval (subject columns) interval
  | inList {subject : SourceColumns → Expr} {values : List (SourceColumns → Expr)}
    (hsubject : Written table labels subject)
    (hvalues : ∀ value ∈ values, Written table labels value) :
    Written table labels fun columns => .inList (subject columns) (values.map (· columns))
  | between {subject low high : SourceColumns → Expr} (hsubject : Written table labels subject)
    (hlow : Written table labels low) (hhigh : Written table labels high) :
    Written table labels fun columns => .between (subject columns) (low columns) (high columns)
  | isNull {subject : SourceColumns → Expr} (negated : Bool)
    (hsubject : Written table labels subject) :
    Written table labels fun columns => .isNull (subject columns) negated
  | raw (sql : String) :
    Written table labels fun _ => .raw sql

structure JoinCall where
  kind : JoinKind
  right : Table
  label : String
  predicate : Option (SourceColumns → SourceColumns → Expr)
  tolerance : Option String

/-- A call that does not join. Its expressions are built from the columns that the builder hands
out. -/
inductive Call where
  | distinct
  | columns (names : List String)
  | columnAs (name label : String)
  | selectExpr (build : SourceColumns → Expr)
  | selectExprAs (build : SourceColumns → Expr) (label : String)
  | whereWith (build : SourceColumns → Expr)
  | andWhereWith (build : SourceColumns → Expr)
  | orderBy (name : String) (direction : Direction)
  | orderByExpr (build : SourceColumns → Expr) (direction : Direction)
  | groupBy (names : List String)
  | groupByExpr (build : SourceColumns → Expr)
  | limit (count : Int) (offset : Option Int)
  | sampleBy (sampling : SampleBy)
  | latestOn (keys : List String)

def JoinCall.apply (b : SelectBuilder) (call : JoinCall) : SelectBuilder :=
  b.join call.kind call.right call.label call.predicate call.tolerance

def Call.apply (b : SelectBuilder) : Call → Except SqlError SelectBuilder
  | distinct => .ok b.distinct
  | columns names => .ok (b.projectColumns names)
  | columnAs name label => .ok (b.projectColumn name (some label))
  | selectExpr build => .ok (b.project (build b.columns) none)
  | selectExprAs build label => .ok (b.project (build b.columns) (some label))
  | whereWith build => .ok (b.filter (build b.columns))
  | andWhereWith build => .ok (b.andFilter (build b.columns))
  | orderBy name direction => .ok (b.orderByColumn name direction)
  | orderByExpr build direction => .ok (b.orderBy (build b.columns) direction)
  | groupBy names => .ok (b.groupByColumns names)
  | groupByExpr build => .ok (b.groupBy (build b.columns))
  | limit count offset => .ok (b.limit count offset)
  | .sampleBy sampling => .ok (b.sampleBy sampling)
  | latestOn keys => b.latestOn keys

def Call.label? : Call → Option String
  | columnAs _ label => some label
  | selectExprAs _ label => some label
  | _ => none

/-- Whether what a call says of columns is written from the columns of the builder. -/
def Call.IsWritten (table : Table) (labels : List String) : Call → Prop
  | columns names => ∀ name ∈ names, Unhidden table labels name
  | columnAs name _ => Unhidden table labels name
  | selectExpr build => Written table labels build
  | selectExprAs build _ => Written table labels build
  | whereWith build => Written table labels build
  | andWhereWith build => Written table labels build
  | orderBy name _ => Unhidden table labels name
  | orderByExpr build _ => Written table labels build
  | groupBy names => ∀ name ∈ names, Unhidden table labels name
  | groupByExpr build => Written table labels build
  | distinct => True
  | limit _ _ => True
  | sampleBy _ => True
  | latestOn _ => True

/-- The builder after calls of both kinds, or the error of the first call that fails. -/
def run (b : SelectBuilder) (steps : List (JoinCall ⊕ Call)) : Except SqlError SelectBuilder :=
  steps.foldlM (fun b step => step.elim (fun call => .ok (call.apply b)) fun call => call.apply b) b

/-- Whether a list of calls has these joins and these other calls, each in their order. -/
def Interleaves (joins : List JoinCall) (calls : List Call) (steps : List (JoinCall ⊕ Call)) :
    Prop :=
  steps.filterMap Sum.getLeft? = joins ∧ steps.filterMap Sum.getRight? = calls

/-! ### Qualifying an expression -/

/-- Whether a claim takes the columns of a table that no label hides, and none that the table does
not have. -/
structure Claims (table : Table) (labels : List String) (claims : String → Bool) : Prop where
  own : ∀ name, Unhidden table labels name → claims name = true
  foreign : ∀ name, table.column? name = none → claims name = false

section

variable {table : Table} {labels : List String} {claims : String → Bool} {qualifier : String}

theorem qualify_own {name : String} (hclaims : Claims table labels claims)
    (hname : Unhidden table labels name) :
    ((SourceColumns.mk (some table) none).column name).reference.qualify qualifier claims =
      ((SourceColumns.mk (some table) (some qualifier)).column name).reference := by
  simp [ColumnRef.reference, SourceColumns.column, Expr.qualify, hclaims.own name hname]

/-- Qualifying what is written from bare columns is writing it from qualified ones. -/
theorem Written.qualify {build : SourceColumns → Expr} (hbuild : Written table labels build)
    (hclaims : Claims table labels claims) :
    (build ⟨some table, none⟩).qualify qualifier claims = build ⟨some table, some qualifier⟩ := by
  induction hbuild with
  | own hname => exact qualify_own hclaims hname
  | ownLiteral name value => rfl
  | bare hname => simp [Expr.qualify, hclaims.foreign _ hname]
  | qualified existing name => rfl
  | literal value type => rfl
  | binary op _ _ ihleft ihright => rw [Expr.qualify, ihleft, ihright]
  | unary op _ ih => rw [Expr.qualify, ih]
  | call kind function label _ ih =>
    rw [Expr.qualify, Expr.qualifyAll_eq_map, List.map_map]
    congr 1
    exact List.map_congr_left ih
  | subquery select => rfl
  | inInterval interval _ ih => rw [Expr.qualify, ih]
  | inList _ _ ihsubject ihvalues =>
    rw [Expr.qualify, ihsubject, Expr.qualifyAll_eq_map, List.map_map]
    congr 1
    exact List.map_congr_left ihvalues
  | between _ _ _ ihsubject ihlow ihhigh => rw [Expr.qualify, ihsubject, ihlow, ihhigh]
  | isNull negated _ ih => rw [Expr.qualify, ih]
  | raw sql => rfl

/-! ### Calls as edits of a select -/

def qualifyBy (qualifier : String) (claims : String → Bool) (select : Select) : Select :=
  { select with
    projections :=
      select.projections.map fun p => { p with expr := p.expr.qualify qualifier claims }
    condition := select.condition.map (Expr.qualify qualifier claims)
    groupBy := select.groupBy.map (Expr.qualify qualifier claims)
    orderBy := select.orderBy.map fun o => { o with expr := o.expr.qualify qualifier claims } }

/-- What a call that does not join does to a select, when its columns come from outside. -/
def Call.edit (columns : SourceColumns) (select : Select) : Call → Except SqlError Select
  | distinct => .ok { select with distinct := true }
  | .columns names =>
    .ok { select with
      projections :=
        select.projections ++ names.map fun name => ⟨(columns.column name).reference, none⟩ }
  | columnAs name label =>
    .ok { select with
      projections := select.projections ++ [⟨(columns.column name).reference, some label⟩] }
  | selectExpr build =>
    .ok { select with projections := select.projections ++ [⟨build columns, none⟩] }
  | selectExprAs build label =>
    .ok { select with projections := select.projections ++ [⟨build columns, some label⟩] }
  | whereWith build => .ok { select with condition := some (build columns) }
  | andWhereWith build =>
    .ok { select with condition := some (Expr.conjoin select.condition (build columns)) }
  | orderBy name direction =>
    .ok { select with
      orderBy := select.orderBy ++ [⟨(columns.column name).reference, direction⟩] }
  | orderByExpr build direction =>
    .ok { select with orderBy := select.orderBy ++ [⟨build columns, direction⟩] }
  | groupBy names =>
    .ok { select with
      groupBy := select.groupBy ++ names.map fun name => (columns.column name).reference }
  | groupByExpr build => .ok { select with groupBy := select.groupBy ++ [build columns] }
  | limit count offset => .ok { select with limit := some ⟨count, offset⟩ }
  | .sampleBy sampling => .ok { select with sampleBy := some sampling }
  | latestOn keys => (SelectBuilder.latestOn ⟨select, columns.table⟩ keys).map SelectBuilder.node

def editAll (columns : SourceColumns) (calls : List Call) (select : Select) :
    Except SqlError Select :=
  calls.foldlM (fun select call => call.edit columns select) select

theorem projectColumns_eq (b : SelectBuilder) (names : List String) :
    b.projectColumns names =
      { b with node := { b.node with
          projections := b.node.projections ++
            names.map fun name => ⟨(b.column name).reference, none⟩ } } := by
  induction names generalizing b with
  | nil =>
    obtain ⟨node, _⟩ := b
    cases node
    simp [projectColumns]
  | cons name rest ih =>
    rw [projectColumns, List.foldl_cons, ← projectColumns, ih, projectColumn, project,
      List.map_cons, List.append_assoc, List.singleton_append]
    rfl

theorem groupByColumns_eq (b : SelectBuilder) (names : List String) :
    b.groupByColumns names =
      { b with node := { b.node with
          groupBy := b.node.groupBy ++ names.map fun name => (b.column name).reference } } := by
  induction names generalizing b with
  | nil =>
    obtain ⟨node, _⟩ := b
    cases node
    simp [groupByColumns]
  | cons name rest ih =>
    rw [groupByColumns, List.foldl_cons, ← groupByColumns, ih, SelectBuilder.groupBy,
      List.map_cons, List.append_assoc, List.singleton_append]
    rfl

/-- The latest rows that are kept, or the error, depend on the table and the keys alone. -/
theorem exists_latestOn (table : Table) (keys : List String) :
    ∃ latest : Except SqlError LatestOn, ∀ select,
      SelectBuilder.latestOn ⟨select, some table⟩ keys =
        latest.map fun latest => ⟨{ select with latestOn := some latest }, some table⟩ := by
  simp only [SelectBuilder.latestOn]
  rcases table.timestamp? with _ | timestamp
  · exact ⟨.error (.validation (.latestOnNoTimestamp table.name)), fun _ => rfl⟩
  · rcases keys.isEmpty
    · rcases keys.find? fun key => (table.column? key).isNone with _ | key
      · exact ⟨.ok ⟨timestamp, keys⟩, fun _ => rfl⟩
      · exact ⟨.error (.validation (.latestOnUnknownKey table.name key)), fun _ => rfl⟩
    · exact ⟨.error (.validation .latestOnNoKeys), fun _ => rfl⟩

/-- A call acts on a builder by editing its select with the columns that the builder hands out. -/
theorem Call.apply_eq (b : SelectBuilder) (hb : b.table = some table) (call : Call) :
    call.apply b = (call.edit b.columns b.node).map fun select => { b with node := select } := by
  cases call with
  | columns names => exact congrArg Except.ok (projectColumns_eq b names)
  | groupBy names => exact congrArg Except.ok (groupByColumns_eq b names)
  | latestOn keys =>
    obtain ⟨node, _⟩ := b
    obtain rfl : _ = some table := hb
    obtain ⟨latest, hlatest⟩ := exists_latestOn table keys
    change SelectBuilder.latestOn ⟨node, some table⟩ keys =
      ((SelectBuilder.latestOn ⟨node, some table⟩ keys).map SelectBuilder.node).map _
    rw [hlatest]
    cases latest <;> rfl
  | _ => rfl

/-- An edit leaves the joins alone and does not look at them. -/
theorem Call.edit_joins (columns : SourceColumns) (hcolumns : columns.table = some table)
    (call : Call) (select : Select) (joins : List Join) :
    call.edit columns { select with joins := joins } =
      (call.edit columns select).map fun edited => { edited with joins := joins } := by
  cases call with
  | latestOn keys =>
    obtain ⟨latest, hlatest⟩ := exists_latestOn table keys
    rw [Call.edit, Call.edit, hcolumns, hlatest, hlatest]
    cases latest <;> rfl
  | _ => rfl

/-- Editing with bare columns and then qualifying is qualifying and then editing with qualified
columns. -/
theorem Call.edit_qualifyBy {call : Call} (hcall : call.IsWritten table labels)
    (hclaims : Claims table labels claims) (select : Select) :
    (call.edit ⟨some table, none⟩ select).map (qualifyBy qualifier claims) =
      call.edit ⟨some table, some qualifier⟩ (qualifyBy qualifier claims select) := by
  cases call with
  | distinct => rfl
  | columns names =>
    simp only [Call.edit, Except.map, qualifyBy, List.map_append, List.map_map]
    congr 3
    apply List.map_congr_left
    intro name hname
    simp only [Function.comp_apply, qualify_own hclaims (hcall name hname)]
  | columnAs name label =>
    simp only [Call.edit, Except.map, qualifyBy, List.map_append, List.map_singleton,
      qualify_own hclaims hcall]
  | selectExpr build =>
    simp only [Call.edit, Except.map, qualifyBy, List.map_append, List.map_singleton,
      Written.qualify hcall hclaims]
  | selectExprAs build label =>
    simp only [Call.edit, Except.map, qualifyBy, List.map_append, List.map_singleton,
      Written.qualify hcall hclaims]
  | whereWith build =>
    simp only [Call.edit, Except.map, qualifyBy, Option.map_some, Written.qualify hcall hclaims]
  | andWhereWith build =>
    cases hcondition : select.condition <;>
      simp only [Call.edit, Except.map, qualifyBy, Option.map_some, Option.map_none, hcondition,
        Expr.conjoin, Expr.qualify, Written.qualify hcall hclaims]
  | orderBy name direction =>
    simp only [Call.edit, Except.map, qualifyBy, List.map_append, List.map_singleton,
      qualify_own hclaims hcall]
  | orderByExpr build direction =>
    simp only [Call.edit, Except.map, qualifyBy, List.map_append, List.map_singleton,
      Written.qualify hcall hclaims]
  | groupBy names =>
    simp only [Call.edit, Except.map, qualifyBy, List.map_append, List.map_map]
    congr 3
    apply List.map_congr_left
    intro name hname
    simp only [Function.comp_apply, qualify_own hclaims (hcall name hname)]
  | groupByExpr build =>
    simp only [Call.edit, Except.map, qualifyBy, List.map_append, List.map_singleton,
      Written.qualify hcall hclaims]
  | limit count offset => rfl
  | sampleBy sampling => rfl
  | latestOn keys =>
    obtain ⟨latest, hlatest⟩ := exists_latestOn table keys
    simp only [Call.edit, hlatest]
    cases latest <;> rfl

/-- An edit leaves the source alone. -/
theorem Call.source_edit {call : Call} {columns : SourceColumns} {select edited : Select}
    (hcolumns : columns.table = some table) (h : call.edit columns select = .ok edited) :
    edited.source = select.source := by
  cases call with
  | latestOn keys =>
    obtain ⟨latest, hlatest⟩ := exists_latestOn table keys
    rw [Call.edit, hcolumns, hlatest] at h
    cases latest with
    | error e => cases h
    | ok latest =>
      obtain rfl := Except.ok.inj h
      rfl
  | _ =>
    obtain rfl := Except.ok.inj h
    rfl

/-- The labels after an edit are those before it and the one the call gives. -/
theorem Call.labels_edit {call : Call} {columns : SourceColumns} {select edited : Select}
    (hcolumns : columns.table = some table) (h : call.edit columns select = .ok edited) :
    edited.labels = select.labels ++ call.label?.toList := by
  cases call with
  | latestOn keys =>
    obtain ⟨latest, hlatest⟩ := exists_latestOn table keys
    rw [Call.edit, hcolumns, hlatest] at h
    cases latest with
    | error e => cases h
    | ok latest =>
      obtain rfl := Except.ok.inj h
      exact (List.append_nil _).symm
  | columns names =>
    obtain rfl := Except.ok.inj h
    simp [Select.labels, Call.label?, List.filterMap_append, List.filterMap_map]
  | _ =>
    obtain rfl := Except.ok.inj h
    simp [Select.labels, Call.label?]

theorem editAll_cons (columns : SourceColumns) (call : Call) (calls : List Call)
    (select : Select) :
    editAll columns (call :: calls) select =
      (call.edit columns select).bind (editAll columns calls) :=
  List.foldlM_cons

theorem editAll_concat (columns : SourceColumns) (calls : List Call) (call : Call)
    (select : Select) :
    editAll columns (calls ++ [call]) select =
      (editAll columns calls select).bind fun edited => call.edit columns edited := by
  induction calls generalizing select with
  | nil =>
    rw [List.nil_append, editAll_cons]
    cases hedit : call.edit columns select <;>
      simp [editAll, hedit, Except.bind, pure, Except.pure]
  | cons first rest ih =>
    rw [List.cons_append, editAll_cons, editAll_cons]
    cases first.edit columns select with
    | error e => rfl
    | ok next => exact ih next

theorem editAll_frame {columns : SourceColumns} {calls : List Call} {select edited : Select}
    (hcolumns : columns.table = some table) (h : editAll columns calls select = .ok edited) :
    edited.source = select.source ∧
      edited.labels = select.labels ++ calls.filterMap Call.label? := by
  induction calls generalizing select with
  | nil =>
    obtain rfl := Except.ok.inj h
    exact ⟨rfl, (List.append_nil _).symm⟩
  | cons call calls ih =>
    rw [editAll_cons] at h
    cases hcall : call.edit columns select with
    | error e =>
      rw [hcall] at h
      cases h
    | ok next =>
      rw [hcall] at h
      obtain ⟨hsource, hlabels⟩ := ih h
      rw [hsource, hlabels, Call.source_edit hcolumns hcall, Call.labels_edit hcolumns hcall]
      refine ⟨rfl, ?_⟩
      cases hlabel : call.label? <;> simp [hlabel]

theorem editAll_qualifyBy {calls : List Call}
    (hcalls : ∀ call ∈ calls, call.IsWritten table labels) (hclaims : Claims table labels claims)
    (qualifier : String) (select : Select) :
    (editAll ⟨some table, none⟩ calls select).map (qualifyBy qualifier claims) =
      editAll ⟨some table, some qualifier⟩ calls (qualifyBy qualifier claims select) := by
  induction calls generalizing select with
  | nil => rfl
  | cons call calls ih =>
    obtain ⟨hcall, hrest⟩ := List.forall_mem_cons.1 hcalls
    rw [editAll_cons, editAll_cons, ← Call.edit_qualifyBy hcall hclaims]
    cases call.edit ⟨some table, none⟩ select with
    | error e => rfl
    | ok next => exact ih hrest next

end

/-! ### The run of a builder -/

/-- The columns that a builder of a table hands out after some joins. -/
def handedOut (table : Table) (joins : List JoinCall) : SourceColumns :=
  ⟨some table, if joins.isEmpty then none else some table.name⟩

def JoinCall.added (table : Table) (call : JoinCall) : Join :=
  { kind := call.kind
    source := .table call.right.name (some call.label)
    predicate := call.predicate.map fun build =>
      build ⟨some table, some table.name⟩ ⟨some call.right, some call.label⟩
    tolerance := call.tolerance }

/-- What a run leaves of its joins and its other calls: the joins, and the select that the other
calls make when the columns are qualified from the start, or bare if nothing is joined. -/
def outcome (table : Table) (joins : List JoinCall) (calls : List Call) :
    Except SqlError SelectBuilder :=
  (editAll (handedOut table joins) calls (.ofSource (.table table.name none))).map fun select =>
    ⟨{ select with joins := joins.map (JoinCall.added table) }, some table⟩

section

variable {table : Table} {labels : List String} {joins : List JoinCall} {calls : List Call}

/-- The claim of a join after some calls. -/
theorem claims_of_labels (hlabels : calls.filterMap Call.label? ⊆ labels) :
    Claims table labels fun name =>
      !(calls.filterMap Call.label?).contains name && (table.column? name).isSome := by
  constructor
  · rintro name ⟨hdeclared, hname⟩
    have hfree : name ∉ calls.filterMap Call.label? := fun hmem => hname (hlabels hmem)
    rw [hdeclared, Bool.and_true, Bool.not_eq_true', ← Bool.not_eq_true, List.contains_iff_mem]
    exact hfree
  · intro name hname
    rw [hname, Option.isSome_none, Bool.and_false]

/-- The first join qualifies the columns of the calls before it. -/
theorem qualified_of_editAll {select : Select}
    (h : editAll ⟨some table, none⟩ calls (.ofSource (.table table.name none)) = .ok select) :
    (SelectBuilder.mk { select with joins := [] } (some table)).qualified =
      ⟨{ qualifyBy table.name
          (fun name => !(calls.filterMap Call.label?).contains name && (table.column? name).isSome)
          select with joins := [] }, some table⟩ := by
  obtain ⟨hsource, hlabels⟩ := editAll_frame rfl h
  change select.labels = calls.filterMap Call.label? at hlabels
  rw [qualified, isQualified, hsource]
  change SelectBuilder.mk _ _ = _
  rw [← hlabels]
  simp only [Select.qualify, qualifyBy, hsource, Select.ofSource, Source.qualifier,
    Option.getD_none]
  rfl

theorem outcome_join (hcalls : ∀ call ∈ calls, call.IsWritten table labels)
    (hlabels : calls.filterMap Call.label? ⊆ labels) (call : JoinCall) :
    (outcome table joins calls).map (fun b => call.apply b) =
      outcome table (joins ++ [call]) calls := by
  cases joins with
  | nil =>
    have hedit := editAll_qualifyBy hcalls (claims_of_labels hlabels) table.name
      (.ofSource (.table table.name none))
    change ((editAll ⟨some table, none⟩ calls _).map _).map _ =
      (editAll ⟨some table, some table.name⟩ calls _).map _
    change _ = editAll _ _ (.ofSource (.table table.name none)) at hedit
    rw [← hedit]
    cases hselect : editAll ⟨some table, none⟩ calls (.ofSource (.table table.name none)) with
    | error e => rfl
    | ok select =>
      have hsource := (editAll_frame rfl hselect).1
      simp only [Except.map, JoinCall.apply, join, List.map_nil, qualified_of_editAll hselect]
      simp only [leftColumns, hsource, Select.ofSource, Source.qualifier, Option.getD_none]
      rfl
  | cons first rest =>
    change ((editAll ⟨some table, some table.name⟩ calls _).map _).map _ =
      (editAll ⟨some table, some table.name⟩ calls _).map _
    cases hselect :
        editAll ⟨some table, some table.name⟩ calls (.ofSource (.table table.name none)) with
    | error e => rfl
    | ok select =>
      have hsource := (editAll_frame rfl hselect).1
      simp only [Except.map, JoinCall.apply, join, qualified, isQualified, leftColumns, hsource,
        Select.ofSource, Source.qualifier, Source.label?, Option.getD_none, List.map_append]
      rfl

theorem outcome_call (call : Call) :
    (outcome table joins calls).bind (fun b => call.apply b) =
      outcome table joins (calls ++ [call]) := by
  rw [outcome, outcome, editAll_concat]
  cases hselect :
      editAll (handedOut table joins) calls (.ofSource (.table table.name none)) with
  | error e => rfl
  | ok select =>
    have hsource := (editAll_frame rfl hselect).1
    have hcolumns : (SelectBuilder.mk { select with joins := joins.map (JoinCall.added table) }
        (some table)).columns = handedOut table joins := by
      rw [SelectBuilder.columns, isQualified, hsource]
      cases joins <;> rfl
    change call.apply _ = (call.edit (handedOut table joins) select).map _
    rw [Call.apply_eq _ rfl, hcolumns, Call.edit_joins _ rfl]
    cases call.edit (handedOut table joins) select <;> rfl

theorem outcome_run (steps : List (JoinCall ⊕ Call))
    (hcalls : ∀ call ∈ calls ++ steps.filterMap Sum.getRight?, call.IsWritten table labels)
    (hlabels : (calls ++ steps.filterMap Sum.getRight?).filterMap Call.label? ⊆ labels) :
    (outcome table joins calls).bind (fun b => b.run steps) =
      outcome table (joins ++ steps.filterMap Sum.getLeft?)
        (calls ++ steps.filterMap Sum.getRight?) := by
  induction steps generalizing joins calls with
  | nil =>
    rw [List.filterMap_nil, List.filterMap_nil, List.append_nil, List.append_nil]
    cases outcome table joins calls <;> rfl
  | cons step steps ih =>
    cases step with
    | inl call =>
      have hbefore : ∀ call ∈ calls, call.IsWritten table labels :=
        fun call hcall => hcalls call (List.mem_append_left _ hcall)
      have hbeforeLabels : calls.filterMap Call.label? ⊆ labels := by
        intro label hlabel
        rw [List.filterMap_append] at hlabels
        exact hlabels (List.mem_append_left _ hlabel)
      have hnext := @ih (joins ++ [call]) calls hcalls hlabels
      rw [List.append_assoc, ← outcome_join hbefore hbeforeLabels] at hnext
      refine Eq.trans ?_ hnext
      cases outcome table joins calls <;> rfl
    | inr call =>
      have happend : calls ++ (.inr call :: steps).filterMap Sum.getRight? =
          calls ++ [call] ++ steps.filterMap Sum.getRight? :=
        (List.append_assoc calls [call] _).symm
      rw [happend] at hcalls hlabels ⊢
      have hnext := @ih joins (calls ++ [call]) hcalls hlabels
      rw [← outcome_call] at hnext
      refine Eq.trans ?_ hnext
      cases outcome table joins calls <;> rfl

/-- Joins can stand anywhere among the other calls on a builder of a table. However they are
interleaved, the same select comes out, and with it the same statement or the same error, provided
that the expressions are written from the columns of the builder and that no result column is
labelled like a column they use. -/
theorem run_interleaves {joins : List JoinCall} {calls : List Call}
    (hcalls : ∀ call ∈ calls, call.IsWritten table (calls.filterMap Call.label?))
    {steps steps' : List (JoinCall ⊕ Call)} (hsteps : Interleaves joins calls steps)
    (hsteps' : Interleaves joins calls steps') :
    (ofTable table).run steps = (ofTable table).run steps' ∧
      ((ofTable table).run steps).bind toSql = ((ofTable table).run steps').bind toSql := by
  have hrun : ∀ {steps}, Interleaves joins calls steps →
      (ofTable table).run steps = outcome table joins calls := by
    intro steps hsteps
    obtain ⟨rfl, rfl⟩ := hsteps
    exact @outcome_run table _ [] [] steps hcalls (List.Subset.refl _)
  rw [hrun hsteps, hrun hsteps']
  exact ⟨rfl, rfl⟩

theorem run_interleaves_count :
    let table : Table :=
      { TableSettings.default with
        name := "readings", columns := .ofList [("kwh", .ofType .double)] }
    let join : JoinCall := ⟨.cross, table, "other", none, none⟩
    let positive : Call := .whereWith fun columns => (columns.column "kwh").compare .gt (.int 0)
    let count : Call := .selectExprAs (fun _ => Expr.countStar) "n"
    (ofTable table).run [.inl join, .inr positive, .inr count] =
        (ofTable table).run [.inr positive, .inl join, .inr count] ∧
      ((ofTable table).run [.inl join, .inr positive, .inr count]).bind toSql =
        ((ofTable table).run [.inr positive, .inl join, .inr count]).bind toSql := by
  intro table join positive count
  have hpositive : positive.IsWritten table ["n"] :=
    .binary .gt (.own ⟨rfl, by decide⟩) (.ownLiteral "kwh" (.int 0))
  have hcount : count.IsWritten table ["n"] := by
    apply @Written.call _ _ .aggregate "count" none [fun _ => Expr.raw "*"]
    intro arg harg
    rw [List.mem_singleton.1 harg]
    exact .raw "*"
  apply @run_interleaves table [join] [positive, count]
  · intro call hcall
    rcases List.mem_cons.1 hcall with rfl | hrest
    · exact hpositive
    · rw [List.mem_singleton.1 hrest]
      exact hcount
  · exact ⟨rfl, rfl⟩
  · exact ⟨rfl, rfl⟩

end

end SelectBuilder
end SeriesSql
