import Mathlib
import SeriesSql.Proofs.Check
import SeriesSql.Proofs.Keyed
import SeriesSql.Result.Row

/-!
# Rows keep every cell in its place

The cells of a response stand on a grid of rows and columns. A response is decoded exactly when
every cell on its grid is. Each row then has the names of the columns, and under a name the value of
the last column with it. Otherwise the error is the one of the first cell that fails, row by row
and from left to right.
-/

namespace SeriesSql

open Check

namespace Row

/-- The cell in a column of a row, which is null where the row is too short. -/
structure IsCell (columns : List ResultColumn) (rows : List (List Json)) (i j : Nat)
    (column : ResultColumn) (cell : Json) : Prop where
  column_eq : columns[j]? = some column
  cell_eq : ∃ cells, rows[i]? = some cells ∧ cells[j]?.getD .null = cell

/-- Whether no later column has the name of a column. -/
def IsLast (columns : List ResultColumn) (j : Nat) (column : ResultColumn) : Prop :=
  ∀ k, j < k → ∀ other, columns[k]? = some other → other.name ≠ column.name

/-- Whether a cell has a value of its column's type. -/
def Decodes (cell : Json) (column : ResultColumn) : Prop :=
  ∃ value, Cell.decode cell column.wireType = .ok value

/-! ### One row -/

/-- The name and the value of a numbered column in row number `index`. -/
def decodeCell (index : Nat) (cells : List Json) (entry : ResultColumn × Nat) :
    Except SqlError (String × Value) :=
  ((Cell.decode (cells[entry.2]?.getD .null) entry.1.wireType).mapError
    (SqlError.atCell entry.1.name index)).map fun value => (entry.1.name, value)

variable {index : Nat} {columns : List ResultColumn} {cells : List Json} {e : SqlError}

theorem decodeCell_eq_ok_iff {entry : ResultColumn × Nat} {pair : String × Value} :
    decodeCell index cells entry = .ok pair ↔
      ∃ value, Cell.decode (cells[entry.2]?.getD .null) entry.1.wireType = .ok value ∧
        pair = (entry.1.name, value) := by
  rw [decodeCell]
  cases Cell.decode (cells[entry.2]?.getD .null) entry.1.wireType <;>
    simp [Except.mapError, Except.map, eq_comm]

theorem decodeCell_eq_error_iff {entry : ResultColumn × Nat} :
    decodeCell index cells entry = .error e ↔
      ∃ cause, Cell.decode (cells[entry.2]?.getD .null) entry.1.wireType = .error cause ∧
        e = .atCell entry.1.name index cause := by
  rw [decodeCell]
  cases Cell.decode (cells[entry.2]?.getD .null) entry.1.wireType <;>
    simp [Except.mapError, Except.map, eq_comm]

theorem exists_decodeCell_iff {entry : ResultColumn × Nat} :
    (∃ pair, decodeCell index cells entry = .ok pair) ↔
      Decodes (cells[entry.2]?.getD .null) entry.1 := by
  simp only [decodeCell_eq_ok_iff, Decodes]
  exact ⟨fun ⟨_, value, h, _⟩ => ⟨value, h⟩, fun ⟨value, h⟩ => ⟨_, value, h, rfl⟩⟩

theorem decodeCells_drop (index : Nat) (columns : List ResultColumn) (cells : List Json) (n : Nat) :
    decodeCells index columns (cells.drop n) =
      (columns.zipIdx n).mapM (decodeCell index cells) := by
  induction columns generalizing n with
  | nil => rfl
  | cons column columns ih =>
    rw [decodeCells, List.zipIdx_cons, List.mapM_cons, List.head?_drop, List.tail_drop, ih,
      decodeCell]
    cases Cell.decode (cells[n]?.getD .null) column.wireType <;> rfl

theorem decodeCells_eq_mapM :
    decodeCells index columns cells = columns.zipIdx.mapM (decodeCell index cells) :=
  decodeCells_drop index columns cells 0

/-- A numbered column is a column and its number. -/
theorem getElem?_zipIdx_eq_some {α : Type} {as : List α} {j : Nat} {entry : α × Nat} :
    as.zipIdx[j]? = some entry ↔ as[j]? = some entry.1 ∧ entry.2 = j := by
  obtain ⟨a, k⟩ := entry
  simp [List.getElem?_zipIdx, eq_comm]

theorem decodeCells_eq_ok_iff {pairs : List (String × Value)} :
    decodeCells index columns cells = .ok pairs ↔
      columns.length = pairs.length ∧ ∀ (j : Nat) (column : ResultColumn),
        columns[j]? = some column → ∃ value, pairs[j]? = some (column.name, value) ∧
          Cell.decode (cells[j]?.getD .null) column.wireType = .ok value := by
  rw [decodeCells_eq_mapM, mapM_eq_ok_iff_getElem?, List.length_zipIdx]
  refine and_congr_right fun _ => ⟨fun h j column hcolumn => ?_, fun h j entry hentry => ?_⟩
  · obtain ⟨pair, hpair, hdecode⟩ := h j (column, j) (getElem?_zipIdx_eq_some.2 ⟨hcolumn, rfl⟩)
    obtain ⟨value, hvalue, rfl⟩ := decodeCell_eq_ok_iff.1 hdecode
    exact ⟨value, hpair, hvalue⟩
  · obtain ⟨hcolumn, rfl⟩ := getElem?_zipIdx_eq_some.1 hentry
    obtain ⟨value, hpair, hvalue⟩ := h _ _ hcolumn
    exact ⟨_, hpair, decodeCell_eq_ok_iff.2 ⟨value, hvalue, rfl⟩⟩

theorem exists_decodeCells_iff :
    (∃ pairs, decodeCells index columns cells = .ok pairs) ↔
      ∀ (j : Nat) (column : ResultColumn), columns[j]? = some column →
        Decodes (cells[j]?.getD .null) column := by
  simp only [decodeCells_eq_mapM, exists_mapM_eq_ok_iff, exists_decodeCell_iff]
  constructor
  · intro h j column hcolumn
    exact h (column, j) (List.mem_of_getElem? (getElem?_zipIdx_eq_some.2 ⟨hcolumn, rfl⟩))
  · intro h entry hentry
    obtain ⟨j, hj⟩ := List.mem_iff_getElem?.1 hentry
    obtain ⟨hcolumn, rfl⟩ := getElem?_zipIdx_eq_some.1 hj
    exact h _ _ hcolumn

theorem decodeCells_eq_error_iff :
    decodeCells index columns cells = .error e ↔
      ∃ (j : Nat) (column : ResultColumn) (cause : SqlError), columns[j]? = some column ∧
        Cell.decode (cells[j]?.getD .null) column.wireType = .error cause ∧
        e = .atCell column.name index cause ∧
        ∀ j' < j, ∀ column', columns[j']? = some column' →
          Decodes (cells[j']?.getD .null) column' := by
  simp only [decodeCells_eq_mapM, mapM_eq_error_iff, decodeCell_eq_error_iff,
    exists_decodeCell_iff]
  constructor
  · rintro ⟨j, entry, hentry, ⟨cause, hcause, rfl⟩, hbefore⟩
    obtain ⟨hcolumn, rfl⟩ := getElem?_zipIdx_eq_some.1 hentry
    refine ⟨_, _, cause, hcolumn, hcause, rfl, fun j' hj' column' hcolumn' => ?_⟩
    exact hbefore j' hj' (column', j') (getElem?_zipIdx_eq_some.2 ⟨hcolumn', rfl⟩)
  · rintro ⟨j, column, cause, hcolumn, hcause, rfl, hbefore⟩
    refine ⟨j, (column, j), getElem?_zipIdx_eq_some.2 ⟨hcolumn, rfl⟩, ⟨cause, hcause, rfl⟩,
      fun j' hj' entry' hentry' => ?_⟩
    obtain ⟨hcolumn', rfl⟩ := getElem?_zipIdx_eq_some.1 hentry'
    exact hbefore _ hj' _ hcolumn'

/-! ### All rows -/

variable {rows : List (List Json)}

def decodeRow (columns : List ResultColumn) (entry : List Json × Nat) : Except SqlError Row :=
  (decodeCells entry.2 columns entry.1).map Keyed.ofList

theorem decodeRow_eq_ok_iff {entry : List Json × Nat} {row : Row} :
    decodeRow columns entry = .ok row ↔
      ∃ pairs, decodeCells entry.2 columns entry.1 = .ok pairs ∧ row = Keyed.ofList pairs := by
  rw [decodeRow]
  cases decodeCells entry.2 columns entry.1 <;> simp [Except.map, eq_comm]

theorem decodeRow_eq_error_iff {entry : List Json × Nat} :
    decodeRow columns entry = .error e ↔ decodeCells entry.2 columns entry.1 = .error e := by
  rw [decodeRow]
  cases decodeCells entry.2 columns entry.1 <;> simp [Except.map]

theorem decodeRows_eq_mapM (n : Nat) :
    decodeRows columns n rows = (rows.zipIdx n).mapM (decodeRow columns) := by
  induction rows generalizing n with
  | nil => rfl
  | cons cells rows ih =>
    rw [decodeRows, List.zipIdx_cons, List.mapM_cons, ih, decodeRow]
    cases decodeCells n columns cells <;> rfl

theorem decodeRows_eq_ok_iff {decoded : List Row} :
    decodeRows columns 0 rows = .ok decoded ↔
      rows.length = decoded.length ∧ ∀ (i : Nat) (cells : List Json), rows[i]? = some cells →
        ∃ pairs, decoded[i]? = some (Keyed.ofList pairs) ∧
          decodeCells i columns cells = .ok pairs := by
  rw [decodeRows_eq_mapM, mapM_eq_ok_iff_getElem?, List.length_zipIdx]
  refine and_congr_right fun _ => ⟨fun h i cells hcells => ?_, fun h i entry hentry => ?_⟩
  · obtain ⟨row, hrow, hdecode⟩ := h i (cells, i) (getElem?_zipIdx_eq_some.2 ⟨hcells, rfl⟩)
    obtain ⟨pairs, hpairs, rfl⟩ := decodeRow_eq_ok_iff.1 hdecode
    exact ⟨pairs, hrow, hpairs⟩
  · obtain ⟨hcells, rfl⟩ := getElem?_zipIdx_eq_some.1 hentry
    obtain ⟨pairs, hrow, hpairs⟩ := h _ _ hcells
    exact ⟨_, hrow, decodeRow_eq_ok_iff.2 ⟨pairs, hpairs, rfl⟩⟩

theorem exists_decodeRow_iff {entry : List Json × Nat} :
    (∃ row, decodeRow columns entry = .ok row) ↔
      ∀ (j : Nat) (column : ResultColumn), columns[j]? = some column →
        Decodes (entry.1[j]?.getD .null) column := by
  rw [← @exists_decodeCells_iff entry.2]
  simp only [decodeRow_eq_ok_iff]
  exact ⟨fun ⟨_, pairs, h, _⟩ => ⟨pairs, h⟩, fun ⟨pairs, h⟩ => ⟨_, pairs, h, rfl⟩⟩

theorem exists_decodeRows_iff :
    (∃ decoded, decodeRows columns 0 rows = .ok decoded) ↔
      ∀ i j column cell, IsCell columns rows i j column cell → Decodes cell column := by
  simp only [decodeRows_eq_mapM, exists_mapM_eq_ok_iff, exists_decodeRow_iff]
  constructor
  · rintro h i j column _ ⟨hcolumn, cells, hcells, rfl⟩
    have hentry := getElem?_zipIdx_eq_some.2 (⟨hcells, rfl⟩ : rows[i]? = some (cells, i).1 ∧ _)
    exact h (cells, i) (List.mem_of_getElem? hentry) j column hcolumn
  · intro h entry hentry j column hcolumn
    obtain ⟨i, hi⟩ := List.mem_iff_getElem?.1 hentry
    obtain ⟨hcells, rfl⟩ := getElem?_zipIdx_eq_some.1 hi
    exact h _ j column _ ⟨hcolumn, _, hcells, rfl⟩

theorem decodeRows_eq_error_iff :
    decodeRows columns 0 rows = .error e ↔
      ∃ i j column cell cause, IsCell columns rows i j column cell ∧
        Cell.decode cell column.wireType = .error cause ∧ e = .atCell column.name i cause ∧
        ∀ i' j' column' cell', (i' < i ∨ i' = i ∧ j' < j) →
          IsCell columns rows i' j' column' cell' → Decodes cell' column' := by
  simp only [decodeRows_eq_mapM, mapM_eq_error_iff, decodeRow_eq_error_iff, exists_decodeRow_iff,
    decodeCells_eq_error_iff]
  constructor
  · rintro ⟨i, entry, hentry, ⟨j, column, cause, hcolumn, hcause, rfl, hleft⟩, habove⟩
    obtain ⟨hcells, rfl⟩ := getElem?_zipIdx_eq_some.1 hentry
    refine ⟨_, j, column, _, cause, ⟨hcolumn, _, hcells, rfl⟩, hcause, rfl, ?_⟩
    rintro i' j' column' _ hbefore ⟨hcolumn', cells', hcells', rfl⟩
    rcases hbefore with hi' | ⟨rfl, hj'⟩
    · exact habove i' hi' (cells', i') (getElem?_zipIdx_eq_some.2 ⟨hcells', rfl⟩) j' column'
        hcolumn'
    · obtain rfl := Option.some.inj (hcells.symm.trans hcells')
      exact hleft j' hj' column' hcolumn'
  · rintro ⟨i, j, column, _, cause, ⟨hcolumn, cells, hcells, rfl⟩, hcause, rfl, hbefore⟩
    refine ⟨i, (cells, i), getElem?_zipIdx_eq_some.2 ⟨hcells, rfl⟩,
      ⟨j, column, cause, hcolumn, hcause, rfl, fun j' hj' column' hcolumn' => ?_⟩,
      fun i' hi' entry' hentry' j' column' hcolumn' => ?_⟩
    · exact hbefore i j' column' _ (.inr ⟨rfl, hj'⟩) ⟨hcolumn', cells, hcells, rfl⟩
    · obtain ⟨hcells', rfl⟩ := getElem?_zipIdx_eq_some.1 hentry'
      exact hbefore _ j' column' _ (.inl hi') ⟨hcolumn', _, hcells', rfl⟩

theorem names_of_decodeCells {pairs : List (String × Value)}
    (h : decodeCells index columns cells = .ok pairs) :
    pairs.map Prod.fst = columns.map ResultColumn.name := by
  obtain ⟨hlength, hpairs⟩ := decodeCells_eq_ok_iff.1 h
  refine List.ext_getElem? fun j => ?_
  rw [List.getElem?_map, List.getElem?_map]
  cases hcolumn : columns[j]? with
  | none =>
    rw [List.getElem?_eq_none_iff, hlength, ← List.getElem?_eq_none_iff] at hcolumn
    rw [hcolumn]
    rfl
  | some column =>
    obtain ⟨value, hvalue, -⟩ := hpairs j column hcolumn
    rw [hvalue]
    rfl

/-- A row has under each name what the last column with the name decodes to. -/
theorem get?_of_decodeCells {pairs : List (String × Value)}
    (h : decodeCells index columns cells = .ok pairs) {j : Nat} {column : ResultColumn}
    (hcolumn : columns[j]? = some column) (hlast : IsLast columns j column) :
    ∃ value, Cell.decode (cells[j]?.getD .null) column.wireType = .ok value ∧
      (Keyed.ofList pairs).get? column.name = some value := by
  obtain ⟨value, hpair, hvalue⟩ := (decodeCells_eq_ok_iff.1 h).2 j column hcolumn
  refine ⟨value, hvalue, ?_⟩
  rw [Keyed.get?_ofList]
  refine Keyed.last?_eq_some hpair fun k hk pair hpair => ?_
  have hname : (columns.map ResultColumn.name)[k]? = some pair.1 := by
    rw [← names_of_decodeCells h, List.getElem?_map, hpair]
    rfl
  rw [List.getElem?_map, Option.map_eq_some_iff] at hname
  obtain ⟨other, hother, hname⟩ := hname
  exact hname ▸ hlast k hk other hother

end Row

open Row in
/-- A response without columns or rows has no rows. Any other is decoded exactly when each of its
cells is, and has one row for each row of cells. The row has the names of the columns in the order
in which they first occur, and under each the value of the last column with it. The error is
otherwise the one of the first cell that fails, under its column's name and its row's number. -/
theorem Response.decodeRows_keeps_places (response : Response) :
    (response.columns = none ∨ response.rows = none → response.decodeRows = .ok []) ∧
    ∀ columns rows, response.columns = some columns → response.rows = some rows →
      ((∃ decoded, response.decodeRows = .ok decoded) ↔
        ∀ i j column cell, IsCell columns rows i j column cell → Decodes cell column) ∧
      (∀ decoded, response.decodeRows = .ok decoded →
        decoded.length = rows.length ∧
        ∀ (i : Nat) (row : Row), decoded[i]? = some row →
          row.names = (columns.map ResultColumn.name).eraseDups ∧
          ∀ j column cell, IsCell columns rows i j column cell → IsLast columns j column →
            ∃ value, Cell.decode cell column.wireType = .ok value ∧
              row.get? column.name = some value) ∧
      ∀ e, response.decodeRows = .error e ↔
        ∃ i j column cell cause, IsCell columns rows i j column cell ∧
          Cell.decode cell column.wireType = .error cause ∧ e = .atCell column.name i cause ∧
          ∀ i' j' column' cell', (i' < i ∨ i' = i ∧ j' < j) →
            IsCell columns rows i' j' column' cell' → Decodes cell' column' := by
  refine ⟨fun h => ?_, fun columns rows hcolumns hrows => ?_⟩
  · rw [Response.decodeRows]
    rcases h with h | h <;> rw [h]
    cases response.columns <;> rfl
  have hdecode : response.decodeRows = Row.decodeRows columns 0 rows := by
    rw [Response.decodeRows, hcolumns, hrows]
  rw [hdecode]
  refine ⟨exists_decodeRows_iff, fun decoded hdecoded => ?_, fun e => decodeRows_eq_error_iff⟩
  obtain ⟨hlength, hrow⟩ := decodeRows_eq_ok_iff.1 hdecoded
  refine ⟨hlength.symm, fun i row hi => ?_⟩
  obtain ⟨hbound, -⟩ := List.getElem?_eq_some_iff.1 hi
  have hcells := List.getElem?_eq_getElem (l := rows) (hlength ▸ hbound)
  obtain ⟨pairs, hpairs, hdecode⟩ := hrow i _ hcells
  obtain rfl := Option.some.inj (hi.symm.trans hpairs)
  refine ⟨by rw [Keyed.names_ofList, names_of_decodeCells hdecode], ?_⟩
  rintro j column _ ⟨hcolumn, cells, hcells', rfl⟩ hlast
  obtain rfl := Option.some.inj (hcells.symm.trans hcells')
  exact get?_of_decodeCells hdecode hcolumn hlast

open Row in
/-- A cell that fails is an error, though a later column has its name and a value. -/
theorem Response.decodeRows_keeps_places_repeated :
    let columns : List ResultColumn := [⟨"a", "INT"⟩, ⟨"a", "SYMBOL"⟩]
    let rows : List (List Json) := [[.number "1"], [.string "x", .string "y"]]
    let response : Response :=
      { Response.empty with columns := some columns, rows := some rows }
    response.decodeRows =
      .error (.atCell "a" 1 (.decode (.string "x") "INT" .notInteger)) := by
  intro columns rows response
  have hcell : IsCell columns rows 1 0 ⟨"a", "INT"⟩ (.string "x") := ⟨rfl, _, rfl, rfl⟩
  obtain ⟨-, -, herror⟩ := (decodeRows_keeps_places response).2 columns rows rfl rfl
  refine (herror _).2 ⟨1, 0, _, _, _, hcell, rfl, rfl, ?_⟩
  rintro i j column _ hbefore ⟨hcolumn, cells, hcells, rfl⟩
  obtain rfl : i = 0 := by omega
  obtain rfl := Option.some.inj hcells
  match j, hcolumn with
  | 0, rfl => exact ⟨_, rfl⟩
  | 1, rfl => exact ⟨_, rfl⟩

end SeriesSql
