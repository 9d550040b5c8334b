import Mathlib
import SeriesSql.Proofs.Client
import SeriesSql.Proofs.Result.Rows
import SeriesSql.Proofs.Sql.WellFormed

/-!
# The first row of a select

The first row is asked for with a limit of one row after the offset that the select has, in place of
the limit there was. An engine that keeps to limits as they are documented then gives the row that
the rows of the select start with, if the select takes rows from the start and takes any. The first
of the last rows is not found that way.
-/

namespace SeriesSql

/-! ### What a limit leaves -/

namespace Limit

def skipped (offset : Option Int) : Nat :=
  (offset.getD 0).toNat

/-- What a limit is documented to leave of rows: all without a limit, so many after the offset, or
so many from the end. What a negative count leaves after an offset is documented nowhere. -/
inductive Leaves {α : Type} (rows : List α) : Option Limit → List α → Prop
  | all : Leaves rows none rows
  | fromStart {count : Int} (hcount : 0 ≤ count) (offset : Option Int) :
    Leaves rows (some ⟨count, offset⟩) ((rows.drop (skipped offset)).take count.toNat)
  | fromEnd {count : Int} (hcount : count < 0) :
    Leaves rows (some ⟨count, none⟩) (rows.drop (rows.length - count.natAbs))

/-- A limit looks at no row, so it leaves the same of rows and of what they stand for. -/
theorem Leaves.forall₂ {α β : Type} {R : α → β → Prop} {rows left : List α} {limit : Option Limit}
    (h : Leaves rows limit left) {others : List β} (hrows : List.Forall₂ R rows others) :
    ∃ kept, Leaves others limit kept ∧ List.Forall₂ R left kept := by
  cases h with
  | all => exact ⟨others, .all, hrows⟩
  | fromStart hcount offset =>
    exact ⟨_, .fromStart hcount offset, List.forall₂_take _ (List.forall₂_drop _ hrows)⟩
  | fromEnd hcount =>
    refine ⟨_, .fromEnd hcount, ?_⟩
    rw [← hrows.length_eq]
    exact List.forall₂_drop _ hrows

/-- A limit of one row leaves the first one after the offset. -/
theorem Leaves.head?_one {α : Type} {rows left : List α} {offset : Option Int}
    (h : Leaves rows (some ⟨1, offset⟩) left) :
    left.head? = (rows.drop (skipped offset)).head? := by
  cases h with
  | fromStart hcount offset =>
    rw [List.head?_take]
    rfl
  | fromEnd hcount => exact absurd hcount (by decide)

/-- What a limit that takes rows from the start leaves starts with the first row after the
offset. -/
theorem Leaves.head?_of_pos {α : Type} {rows left : List α} {limit : Option Limit}
    (h : Leaves rows limit left) (hpos : ∀ l ∈ limit, 0 < l.count) :
    left.head? = (rows.drop (skipped (limit.bind Limit.offset))).head? := by
  cases h with
  | all => rfl
  | fromStart hcount offset =>
    have htaken : Int.toNat _ ≠ 0 := Nat.pos_iff_ne_zero.1 (Int.lt_toNat.2 (hpos _ rfl))
    rw [List.head?_take, if_neg htaken]
    rfl
  | fromEnd hcount => exact absurd hcount (Int.not_lt.2 (Int.le_of_lt (hpos _ rfl)))

end Limit

/-! ### Decoding what is left -/

namespace Row

/-- Whether a row is decoded from cells, whatever its number. -/
def IsDecoded (columns : List ResultColumn) (cells : List Json) (row : Row) : Prop :=
  ∃ pairs, (∀ index, decodeCells index columns cells = .ok pairs) ∧ row = Keyed.ofList pairs

theorem decodeRow_eq_ok_iff_isDecoded {columns : List ResultColumn} {entry : List Json × Nat}
    {row : Row} : decodeRow columns entry = .ok row ↔ IsDecoded columns entry.1 row := by
  rw [decodeRow_eq_ok_iff]
  constructor
  · intro ⟨pairs, hpairs, hrow⟩
    exact ⟨pairs, fun index => decodeCells_eq_ok_iff.2 (decodeCells_eq_ok_iff.1 hpairs), hrow⟩
  · intro ⟨pairs, hpairs, hrow⟩
    exact ⟨pairs, hpairs entry.2, hrow⟩

theorem decodeRows_eq_ok_iff_forall₂ {columns : List ResultColumn} {rows : List (List Json)}
    {decoded : List Row} :
    decodeRows columns 0 rows = .ok decoded ↔
      List.Forall₂ (IsDecoded columns) rows decoded := by
  have hrows : rows = rows.zipIdx.map Prod.fst := (List.zipIdx_map_fst 0 rows).symm
  rw [decodeRows_eq_mapM, Check.mapM_eq_ok_iff]
  simp only [decodeRow_eq_ok_iff_isDecoded]
  conv_rhs => rw [hrows, List.forall₂_map_left_iff]

end Row

/-! ### The statement without its limit -/

namespace Select

/-- The limit comes last in a statement and is never refused. -/
theorem write_limit (select : Select) :
    select.write = (do
      Select.write { select with limit := none }
      Writer.emitClause "\n" select.limit Limit.write) := by
  rw [write_eq, write_eq]
  simp only [bind_assoc, Writer.emitClause, pure_bind]
  rfl

theorem exists_emits_limit (limit : Option Limit) :
    ∃ clause, Writer.Emits (Writer.emitClause "\n" limit Limit.write) clause := by
  match limit with
  | none => exact ⟨_, Writer.emits_pure⟩
  | some ⟨count, none⟩ =>
    exact ⟨_, (Writer.emits_emit _).bind ((Writer.emits_emit _).bind Writer.emits_pure)⟩
  | some ⟨count, some offset⟩ =>
    exact ⟨_, (Writer.emits_emit _).bind ((Writer.emits_emit _).bind (Writer.emits_emit _))⟩

/-- A limit decides nothing about whether a select is refused. -/
theorem write_toSql_eq_error_iff (select : Select) {e : SqlError} :
    select.write.toSql = .error e ↔ (write { select with limit := none }).toSql = .error e := by
  obtain ⟨clause, hclause⟩ := exists_emits_limit select.limit
  rw [write_limit, Writer.toSql_eq_error_iff, Writer.toSql_eq_error_iff]
  obtain ⟨piece, hpiece⟩ | ⟨e', hstops⟩ :=
    (steady_write { select with limit := none }).emits_or_stops
  · exact iff_of_false (fun h => Writer.Stops.not_emits h (Writer.Emits.bind hpiece hclause))
      fun h => Writer.Stops.not_emits h hpiece
  · refine ⟨fun h => ?_, Writer.Stops.bind⟩
    rwa [Writer.Stops.error_unique h (Writer.Stops.bind hstops)]

end Select

/-! ### The engine -/

/-- Whether the next reply of an engine to a select has what the select's limit leaves of some
rows. -/
def Engine.Answers (engine : Engine) (select : Select) (columns : List ResultColumn)
    (rows : List (List Json)) : Prop :=
  ∀ sql, select.write.toSql = .ok sql → ∃ response left,
    engine.reply engine.received.length sql = .ok response ∧
      response.columns = some columns ∧ response.rows = some left ∧
      Limit.Leaves rows select.limit left

def Engine.ofRows (columns : List ResultColumn) (results : List (List (List Json))) : Engine where
  replies := results.map fun rows _ =>
    .ok { Response.empty with columns := some columns, rows := some rows }
  received := []

namespace SelectBuilder

variable {b : SelectBuilder}

theorem toSql_firstOnly_eq_error_iff {e : SqlError} :
    b.firstOnly.toSql = .error e ↔ b.toSql = .error e :=
  (Select.write_toSql_eq_error_iff b.firstOnly.node).trans
    (Select.write_toSql_eq_error_iff b.node).symm

theorem exists_toSql_firstOnly {sql : String} (h : b.toSql = .ok sql) :
    ∃ sql', b.firstOnly.toSql = .ok sql' := by
  cases hfirst : b.firstOnly.toSql with
  | ok sql' => exact ⟨sql', rfl⟩
  | error e => cases h.symm.trans (toSql_firstOnly_eq_error_iff.1 hfirst)

theorem run_execute_error {e : SqlError} (h : b.toSql = .error e) (engine : Engine) :
    b.execute.run.run engine = (.error e, engine) := by
  rw [execute, Request.run_bind, Session.sendRendered, Request.run_bind, Request.run_ofExcept, h]

theorem run_first (b : SelectBuilder) (engine : Engine) :
    (b.first.run.run engine).1 = (b.firstOnly.execute.run.run engine).1.map List.head? := by
  rw [first, Request.run_bind]
  rcases b.firstOnly.execute.run.run engine with ⟨_ | _, _⟩ <;> rfl

variable {engine engine' : Engine} {columns : List ResultColumn} {rows : List (List Json)}
  {decoded : List Row}

/-- A select gets what its limit leaves of the rows. -/
theorem run_execute {sql : String} (hsql : b.toSql = .ok sql)
    (hdecoded : Row.decodeRows columns 0 rows = .ok decoded)
    (hengine : engine.Answers b.node columns rows) :
    ∃ left, Limit.Leaves decoded b.node.limit left ∧ (b.execute.run.run engine).1 = .ok left := by
  obtain ⟨response, cells, hreply, hcolumns, hrows, hleaves⟩ := hengine sql hsql
  obtain ⟨left, hleft, hcells⟩ := hleaves.forall₂ (Row.decodeRows_eq_ok_iff_forall₂.1 hdecoded)
  refine ⟨left, hleft, ?_⟩
  have hdecode : response.decodeRows = .ok left := by
    rw [Response.decodeRows, hcolumns, hrows]
    exact Row.decodeRows_eq_ok_iff_forall₂.2 hcells
  rw [execute, Request.run_bind, Session.sendRendered, Request.run_bind, Request.run_ofExcept, hsql]
  simp only [Request.run_send, hreply]
  exact congrArg Prod.fst ((Request.run_ofExcept response.decodeRows _).trans (by rw [hdecode]))

/-- The first row is refused when the select is. It is the first row after the select's offset,
which is the one that the rows of the select start with if the select takes rows from the start and
takes any. -/
theorem first_agrees_from_start (hdecoded : Row.decodeRows columns 0 rows = .ok decoded)
    (hfirst : engine'.Answers b.firstOnly.node columns rows) :
    (∀ e, b.toSql = .error e →
      (b.execute.run.run engine).1 = .error e ∧ (b.first.run.run engine').1 = .error e) ∧
    ∀ sql, b.toSql = .ok sql →
      (b.first.run.run engine').1 =
        .ok (decoded.drop (Limit.skipped (b.node.limit.bind Limit.offset))).head? ∧
      (engine.Answers b.node columns rows →
        ∃ left, Limit.Leaves decoded b.node.limit left ∧ (b.execute.run.run engine).1 = .ok left ∧
          ((∀ limit ∈ b.node.limit, 0 < limit.count) →
            (b.first.run.run engine').1 = .ok left.head?)) := by
  refine ⟨fun e he => ⟨?_, ?_⟩, fun sql hsql => ?_⟩
  · rw [run_execute_error he]
  · rw [run_first, run_execute_error (toSql_firstOnly_eq_error_iff.2 he)]
    rfl
  obtain ⟨sql', hsql'⟩ := exists_toSql_firstOnly hsql
  obtain ⟨one, hone, hexecute⟩ := run_execute hsql' hdecoded hfirst
  have hrow : (b.first.run.run engine').1 =
      .ok (decoded.drop (Limit.skipped (b.node.limit.bind Limit.offset))).head? := by
    rw [run_first, hexecute, ← hone.head?_one]
    rfl
  refine ⟨hrow, fun hengine => ?_⟩
  obtain ⟨left, hleft, hall⟩ := run_execute hsql hdecoded hengine
  refine ⟨left, hleft, hall, fun hpos => ?_⟩
  rw [hrow, hleft.head?_of_pos hpos]

/-- Two rows after the first, and the first of them. -/
theorem first_agrees_from_start_offset :
    let b := (ofName "t").limit 2 (some 1)
    let columns : List ResultColumn := [⟨"v", "INT"⟩]
    let rows : List (List Json) := [[.number "1"], [.number "2"], [.number "3"], [.number "4"]]
    let engine := Engine.ofRows columns [[[.number "2"], [.number "3"]], [[.number "2"]]]
    let after := (b.execute.run.run engine).2
    engine.Answers b.node columns rows ∧ after.Answers b.firstOnly.node columns rows ∧
      (b.execute.run.run engine).1 = .ok [.ofList [("v", .int 2)], .ofList [("v", .int 3)]] ∧
      (b.first.run.run after).1 = .ok (some (.ofList [("v", .int 2)])) := by
  intro b columns rows engine after
  have hdecoded : Row.decodeRows columns 0 rows = .ok [.ofList [("v", .int 1)],
    .ofList [("v", .int 2)], .ofList [("v", .int 3)], .ofList [("v", .int 4)]] := rfl
  have hengine : engine.Answers b.node columns rows := fun sql _ =>
    ⟨_, _, rfl, rfl, rfl, .fromStart (by decide) _⟩
  have hafter : after.Answers b.firstOnly.node columns rows := fun sql _ =>
    ⟨_, _, rfl, rfl, rfl, .fromStart (by decide) _⟩
  obtain ⟨-, hrun⟩ := @first_agrees_from_start b engine after columns rows _ hdecoded hafter
  obtain ⟨hfirst, -⟩ := hrun _ rfl
  exact ⟨hengine, hafter, rfl, hfirst⟩

/-- The last row is not the first one, which is what comes of asking for one row from the start. -/
theorem first_misses_last_row :
    let b := (ofName "t").limit (-1) none
    let columns : List ResultColumn := [⟨"v", "INT"⟩]
    let rows : List (List Json) := [[.number "1"], [.number "2"]]
    let engine := Engine.ofRows columns [[[.number "2"]], [[.number "1"]]]
    let after := (b.execute.run.run engine).2
    engine.Answers b.node columns rows ∧ after.Answers b.firstOnly.node columns rows ∧
      (∃ decoded, Row.decodeRows columns 0 rows = .ok decoded) ∧
      ∃ left, (b.execute.run.run engine).1 = .ok left ∧
        (b.first.run.run after).1 ≠ .ok left.head? := by
  intro b columns rows engine after
  refine ⟨fun sql _ => ⟨_, _, rfl, rfl, rfl, .fromEnd (by decide)⟩,
    fun sql _ => ⟨_, _, rfl, rfl, rfl, .fromStart (by decide) _⟩, ⟨_, rfl⟩, _, rfl, ?_⟩
  have hfirst : (b.first.run.run after).1 = .ok (some (.ofList [("v", .int 1)])) := rfl
  rw [hfirst]
  intro heq
  have hvalue := congrArg (fun row : Except SqlError (Option Row) =>
    row.toOption.join.bind fun row => row.get? "v") heq
  cases hvalue

end SelectBuilder
end SeriesSql
