import Mathlib
import SeriesSql.Proofs.Builder.Insert
import SeriesSql.Proofs.Builder.Update
import SeriesSql.Proofs.Sql.Literal

/-!
# The literal that a column gets

An update sets a column to a value, and an insert adds a row with it. Both builders look at the
value when they take it and refuse the same ones. The update writes the literal of the value. The
insert does so as well unless the value is a null that the column does not store, where it writes
what the column shows instead.
-/

namespace SeriesSql

open Writer

/-! ### Nulls -/

namespace Literal

/-- What an insert writes for a null. -/
def ofMissing : ColumnType → String
  | .boolean => "false"
  | .byte | .short => "0"
  | _ => "NULL"

theorem ofMissing_eq_null_iff {type : ColumnType} :
    ofMissing type = "NULL" ↔ type.isNullable := by
  cases type <;> decide

end Literal

/-! ### Which values are taken -/

section Column

variable {table : Table} {name : String} {column : Column}
  (hcolumn : table.column? name = some column) (hplain : column.designated = false)
include hcolumn hplain

theorem UpdateBuilder.set_eq {u : UpdateBuilder} (htable : u.table = table) (value : Value) :
    u.set name value =
      (Literal.ofValue value column.type).map fun _ =>
        u.assign name (.literal value column.type) := by
  have hassignable : u.assignable name = .ok column := by
    rw [assignable_eq_ok_iff, htable]
    exact ⟨hcolumn, hplain⟩
  rw [set, hassignable]
  change (discard (Literal.ofValue value column.type) >>= fun _ =>
    .ok (u.assign name (.literal value column.type))) = _
  cases Literal.ofValue value column.type <;> rfl

theorem InsertBuilder.row_eq {b : InsertBuilder} (htable : b.table = table) (value : Value) :
    b.row (.ofList [(name, .value value)]) =
      (Literal.ofValue value column.type).map fun _ =>
        { b with rows := b.rows ++ [.ofList [(name, .value value)]] } := by
  have hnull : (value.isNull && table.timestamp? == some name) = false := by
    rw [Bool.and_eq_false_iff, beq_eq_false_iff_ne]
    exact .inr (Table.timestamp?_ne hcolumn hplain)
  have hcell : checkCell table name (.value value) =
      discard (Literal.ofValue value column.type) := by
    rw [checkCell_value hcolumn, hnull]
    rfl
  have hcheck : checkRow table (.ofList [(name, .value value)]) =
      discard (Literal.ofValue value column.type) := by
    change (checkCell table name (.value value) >>= fun _ => .ok ()) = _
    rw [hcell]
    cases Literal.ofValue value column.type <;> rfl
  rw [row, htable, hcheck]
  cases Literal.ofValue value column.type <;> rfl

end Column

/-! ### What is written -/

/-- The last thing that an update sets is a column, to a literal. -/
def UpdateBuilder.SetsLast (u : UpdateBuilder) (name literal : String) : Prop :=
  ∃ before assignment, u.node.assignments = before ++ [assignment] ∧
    assignment.write.toSql = .ok (Token.name name ++ " = " ++ literal)

/-- The last row that an insert adds has a literal in a column. -/
def InsertBuilder.StoresLast (b : InsertBuilder) (name literal : String) : Prop :=
  ∃ (before : List (List InsertCell)) (row : List InsertCell) (i : Nat) (type : ColumnType)
      (cell : InsertCell), b.node.rows = before ++ [row] ∧ b.node.columns[i]? = some name ∧
    b.node.types[i]? = some type ∧ row[i]? = some cell ∧
    (InsertCell.write type cell).toSql = .ok literal

theorem toSql_assignment {name literal : String} {value : Value} {type : ColumnType}
    (h : Literal.ofValue value type = .ok literal) :
    (Assignment.write ⟨name, .literal value type⟩).toSql =
      .ok (Token.name name ++ " = " ++ literal) := by
  rw [toSql_eq_ok_iff, Assignment.write, Expr.write]
  exact (emits_emit _).bind (emits_emitResult_iff.2 h)

theorem UpdateBuilder.setsLast_assign (u : UpdateBuilder) {name literal : String} {value : Value}
    {type : ColumnType} (h : Literal.ofValue value type = .ok literal) :
    (u.assign name (.literal value type)).SetsLast name literal :=
  ⟨_, _, rfl, toSql_assignment h⟩

namespace InsertBuilder

/-- The literal in the row that sets one column: that of the value, or what stands for a null. -/
theorem toSql_stored {table : Table} {name literal : String} {value : Value} {type : ColumnType}
    (h : Literal.ofValue value type = .ok literal) :
    (InsertCell.write type (stored table [(name, .value value)] name type)).toSql =
      .ok (if value.isNull then Literal.ofMissing type else literal) := by
  have hlast : Keyed.last? name [(name, InsertCell.value value)] = some (.value value) := by
    simp [Keyed.last?_cons]
  have hmissing : (InsertCell.write type (missing type)).toSql = .ok (Literal.ofMissing type) := by
    cases type <;> rfl
  rw [stored, hlast]
  cases value with
  | null => exact hmissing
  | _ => exact Writer.toSql_eq_ok_iff.2 (emits_emitResult_iff.2 h)

theorem storesLast_row {b : InsertBuilder} {name literal : String} {column : Column}
    (hcolumn : b.table.column? name = some column) {value : Value}
    (h : Literal.ofValue value column.type = .ok literal) :
    StoresLast { b with rows := b.rows ++ [.ofList [(name, .value value)]] } name
      (if value.isNull then Literal.ofMissing column.type else literal) := by
  -- Both the columns and the cells of the statement depend on the new row.
  obtain ⟨next, hnext⟩ : ∃ next : InsertBuilder,
      next = { b with rows := b.rows ++ [.ofList [(name, .value value)]] } := ⟨_, rfl⟩
  let entries := next.table.columns.entries.filter fun entry => next.lists entry.1
  let cells := fun row => entries.map fun entry => cell next.table row entry.1 entry.2
  have hrows : next.node.rows =
      b.rows.map cells ++ [cells (.ofList [(name, .value value)])] := by
    have hmap : next.node.rows = next.rows.map cells := rfl
    rw [hmap, hnext, List.map_append, List.map_singleton]
  have hlists : next.lists name := by
    rw [lists, hnext]
    simp [Keyed.contains_iff_mem_names, Keyed.mem_names_ofList]
  have hmem : (name, column) ∈ entries := by
    rw [List.mem_filter, ← Keyed.get?_eq_some_iff]
    exact ⟨hnext ▸ hcolumn, hlists⟩
  have hcell : (InsertCell.write column.type
      (cell next.table (.ofList [(name, .value value)]) name column)).toSql =
        .ok (if value.isNull then Literal.ofMissing column.type else literal) := by
    rw [cell_eq_stored]
    exact toSql_stored h
  obtain ⟨i, hi⟩ := List.mem_iff_getElem?.1 hmem
  have hget : ∀ {β : Type} (f : String × Column → β),
      (entries.map f)[i]? = some (f (name, column)) := by
    intro β f
    rw [List.getElem?_map, hi, Option.map_some]
  rw [← hnext]
  exact ⟨_, _, i, _, _, hrows, hget Prod.fst, hget fun entry => entry.2.type, hget _, hcell⟩

theorem emits_writeRow {entries : List (String × Column)} {cell : String × Column → InsertCell}
    {piece : String × Column → String}
    (h : ∀ entry ∈ entries, Emits (InsertCell.write entry.2.type (cell entry)) (piece entry)) :
    Emits (Insert.writeRow (entries.map fun entry => entry.2.type) (entries.map cell))
      ("\n(" ++ (", ".intercalate (entries.map piece) ++ ")")) := by
  rw [Insert.writeRow, List.zip_map']
  exact (emits_emit _).bind ((emits_separated_map ", " h).bind (emits_emit _))

/-! ### A row that sets one column -/

section Single

variable {table : Table} {name literal : String} {column : Column} {value : Value}

theorem names_listed_single :
    (listed table [[(name, .value value)]]).map Prod.fst =
      table.columns.names.filter fun other => table.timestamp? = some other ∨ other = name := by
  rw [listed, Keyed.names, List.filter_map]
  congr 1
  apply List.filter_congr
  intro entry _
  simp [Listed]

/-- The only other cell is the one of the designated timestamp, which is the current time. -/
theorem emits_single (hcolumn : table.column? name = some column)
    (h : Literal.ofValue value column.type = .ok literal) {entry : String × Column}
    (hentry : entry ∈ listed table [[(name, .value value)]]) :
    Emits (InsertCell.write entry.2.type
        (stored table [(name, .value value)] entry.1 entry.2.type))
      (if entry.1 = name then if value.isNull then Literal.ofMissing column.type else literal
        else "now()") := by
  split
  · rename_i hname
    have hsame := column?_of_mem_listed hentry
    rw [hname, hcolumn, Option.some_inj] at hsame
    rw [hname, ← hsame]
    exact Writer.toSql_eq_ok_iff.1 (toSql_stored h)
  · rename_i hname
    have hlast : Keyed.last? entry.1 [(name, InsertCell.value value)] = none := by
      simp [Keyed.last?_cons, Ne.symm hname]
    have htimestamp : table.timestamp? = some entry.1 := by
      have hlisted := of_decide_eq_true (List.mem_filter.1 hentry).2
      simpa [Listed, hname] using hlisted
    rw [stored, hlast]
    simp only [htimestamp, if_true]
    exact emits_emit "now()"

theorem toSql_single (hcolumn : table.column? name = some column)
    (hplain : column.designated = false) (h : Literal.ofValue value column.type = .ok literal) :
    let columns := table.columns.names.filter fun other =>
      table.timestamp? = some other ∨ other = name
    let stored := if value.isNull then Literal.ofMissing column.type else literal
    toSql ⟨table, [.ofList [(name, .value value)]]⟩ =
      .ok ("INSERT INTO " ++ Token.name table.name ++ " (" ++ Token.names columns ++
        ") VALUES" ++ "\n(" ++
          ", ".intercalate (columns.map fun other => if other = name then stored else "now()") ++
            ")") := by
  intro columns stored
  have hrow : InsertBuilder.row (.ofTable table) (.ofList [(name, .value value)]) =
      .ok ⟨table, [.ofList [(name, .value value)]]⟩ := by
    rw [row_eq hcolumn hplain rfl, h]
    rfl
  have hfits : RowFits table [(name, .value value)] := exists_row_eq_ok_iff.1 ⟨_, hrow⟩
  -- The statement of an accepted row passes its check.
  have hparts := (Insert.succeeds_write_iff _).1
    (@succeeds_write_statement table [[(name, .value value)]] (List.cons_ne_nil _ _) <| by
      simpa using hfits)
  have hcolumns : (statement table [[(name, .value value)]]).columns = columns :=
    names_listed_single
  have hcells : (listed table [[(name, .value value)]]).map
      (fun entry => if entry.1 = name then stored else "now()") =
        columns.map fun other => if other = name then stored else "now()" := by
    rw [← hcolumns, statement, List.map_map]
    rfl
  have hall : Emits (statement table [[(name, .value value)]]).write
      ("" ++ ("INSERT INTO " ++ Token.name table.name ++ " (" ++ Token.names columns ++
        ") VALUES" ++ ("\n(" ++ (", ".intercalate
          (columns.map fun other => if other = name then stored else "now()") ++ ")")))) := by
    rw [← hcells, ← hcolumns]
    exact Emits.bind (emits_require_iff.2 ⟨hparts.1, rfl⟩) (Emits.bind (emits_emit _)
      (emits_writeRow fun entry => emits_single hcolumn h))
  have hnode : node ⟨table, [.ofList [(name, .value value)]]⟩ =
      statement table [[(name, .value value)]] := node_eq_statement rfl
  rw [toSql, hnode, Writer.toSql_eq_ok_iff]
  simpa only [String.append_assoc, String.empty_append] using hall

end Single

end InsertBuilder

/-- The statement that sets one column. -/
theorem UpdateBuilder.toSql_set {table : Table} {name literal : String} {value : Value}
    {type : ColumnType} (h : Literal.ofValue value type = .ok literal) :
    ((ofTable table).assign name (.literal value type)).toSql =
      .ok ("UPDATE " ++ Token.name table.name ++ "\nSET " ++ Token.name name ++ " = " ++
        literal) := by
  have hassignment := toSql_eq_ok_iff.1 (@toSql_assignment name literal value type h)
  have hnone : Emits (Expr.writeOptional "\nWHERE " none) "" := by
    rw [Expr.writeOptional]
    exact emits_pure
  have hall : Emits ((ofTable table).assign name (.literal value type)).node.write
      ("" ++ ("UPDATE " ++ Token.name table.name ++ "\nSET " ++
        (Token.name name ++ " = " ++ literal ++ ("" ++ "")))) :=
    Emits.bind (emits_require_iff.2 ⟨rfl, rfl⟩) (Emits.bind (emits_emit _)
      (Emits.bind hassignment (Emits.bind emits_pure hnone)))
  rw [toSql, Writer.toSql_eq_ok_iff]
  simpa [String.append_assoc] using hall

/-! ### The two statements -/

theorem literal_eq_stored_iff {value : Value} {type : ColumnType} {literal : String}
    (h : Literal.ofValue value type = .ok literal) :
    (literal = if value.isNull then Literal.ofMissing type else literal) ↔
      (value.isNull → type.isNullable) := by
  rw [← Literal.ofMissing_eq_null_iff]
  split
  · rename_i hnull
    rw [(Literal.eq_null_iff h).2 hnull, imp_iff_right hnull]
    exact eq_comm
  · rename_i hpresent
    exact iff_of_true rfl fun hnull => absurd hnull hpresent

theorem stored_eq_null_iff {value : Value} {type : ColumnType} {literal : String}
    (h : Literal.ofValue value type = .ok literal) :
    (if value.isNull then Literal.ofMissing type else literal) = "NULL" ↔
      value.isNull ∧ type.isNullable := by
  split
  · rename_i hnull
    rw [Literal.ofMissing_eq_null_iff, and_iff_right hnull]
  · rename_i hpresent
    rw [Literal.eq_null_iff h]
    exact iff_of_false hpresent fun hnull => hpresent hnull.1

/-- An update takes a value for a column exactly if an insert takes a row that sets only this column
to it, and both refuse it with the same error. The literal of the update is the one of the insert
unless the value is a null and the column stores none. There the update writes the null, and the
insert writes what the column shows for it. -/
theorem set_and_row_agree_iff {table : Table} {name : String} {column : Column}
    (hcolumn : table.column? name = some column) (hplain : column.designated = false)
    (value : Value) :
    let row := Keyed.ofList [(name, InsertCell.value value)]
    (∀ (u : UpdateBuilder) (b : InsertBuilder), u.table = table → b.table = table →
        discard (u.set name value) = discard (b.row row) ∧
          ((∃ next, u.set name value = .ok next) ↔
            ∃ literal, Literal.ofValue value column.type = .ok literal)) ∧
      ∀ literal, Literal.ofValue value column.type = .ok literal →
        let stored := if value.isNull then Literal.ofMissing column.type else literal
        let columns := table.columns.names.filter fun other =>
          table.timestamp? = some other ∨ other = name
        (∀ u next, u.table = table → UpdateBuilder.set u name value = .ok next →
            next.SetsLast name literal) ∧
          (∀ b next, b.table = table → InsertBuilder.row b row = .ok next →
            next.StoresLast name stored) ∧
          ((UpdateBuilder.ofTable table).set name value >>= UpdateBuilder.toSql) =
            .ok ("UPDATE " ++ Token.name table.name ++ "\nSET " ++ Token.name name ++ " = " ++
              literal) ∧
          ((InsertBuilder.ofTable table).row row >>= InsertBuilder.toSql) =
            .ok ("INSERT INTO " ++ Token.name table.name ++ " (" ++ Token.names columns ++
              ") VALUES" ++ "\n(" ++
                ", ".intercalate
                  (columns.map fun other => if other = name then stored else "now()") ++ ")") ∧
          (literal = stored ↔ (value.isNull → column.type.isNullable)) ∧
          (literal = "NULL" ↔ value.isNull) ∧
          (stored = "NULL" ↔ value.isNull ∧ column.type.isNullable) := by
  intro row
  refine ⟨fun u b hu hb => ?_, fun literal hliteral => ⟨?_, ?_, ?_, ?_, ?_, ?_, ?_⟩⟩
  · rw [UpdateBuilder.set_eq hcolumn hplain hu, InsertBuilder.row_eq hcolumn hplain hb]
    exact ⟨by rw [Check.discard_map, Check.discard_map], Check.exists_map_eq_ok_iff⟩
  · intro u next hu hnext
    rw [UpdateBuilder.set_eq hcolumn hplain hu, hliteral] at hnext
    obtain rfl := Except.ok.inj hnext
    exact u.setsLast_assign hliteral
  · intro b next hb hnext
    rw [InsertBuilder.row_eq hcolumn hplain hb, hliteral] at hnext
    obtain rfl := Except.ok.inj hnext
    exact InsertBuilder.storesLast_row (hb ▸ hcolumn) hliteral
  · rw [UpdateBuilder.set_eq hcolumn hplain rfl, hliteral]
    exact UpdateBuilder.toSql_set hliteral
  · rw [InsertBuilder.row_eq hcolumn hplain rfl, hliteral]
    exact InsertBuilder.toSql_single hcolumn hplain hliteral
  · exact literal_eq_stored_iff hliteral
  · exact Literal.eq_null_iff hliteral
  · exact stored_eq_null_iff hliteral

/-- A null for a truth value is written by an update, and is false in an insert. -/
theorem set_and_row_agree_iff_boolean :
    let table : Table :=
      { TableSettings.default with
        name := "readings", columns := .ofList [("flag", .ofType .boolean)] }
    ((UpdateBuilder.ofTable table).set "flag" .null >>= UpdateBuilder.toSql) =
        .ok "UPDATE readings\nSET flag = NULL" ∧
      ((InsertBuilder.ofTable table).row (.ofList [("flag", .value .null)]) >>=
          InsertBuilder.toSql) =
        .ok "INSERT INTO readings (flag) VALUES\n(false)" := by
  intro table
  have hcolumn : table.column? "flag" = some (.ofType .boolean) := by decide
  obtain ⟨-, hliterals⟩ := set_and_row_agree_iff hcolumn rfl .null
  obtain ⟨-, -, hupdate, hinsert, -⟩ := hliterals "NULL" rfl
  exact ⟨hupdate.trans (congrArg Except.ok (by decide)),
    hinsert.trans (congrArg Except.ok (by decide))⟩

end SeriesSql
