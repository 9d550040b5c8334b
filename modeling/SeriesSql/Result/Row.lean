import SeriesSql.Result.Cell
import SeriesSql.Result.Response

/-!
# Rows of a response

A row has one value under the name of each column. Cells and columns are paired by position: a
missing cell is null and a cell without a column is skipped. When a column's name is repeated, its
first place and its last value count.
-/

namespace SeriesSql

abbrev Row := Keyed Value

namespace Row

/-- The values of the cells of row number `index` under their columns. -/
def decodeCells (index : Nat) (columns : List ResultColumn) (cells : List Json) :
    Except SqlError (List (String × Value)) :=
  match columns with
  | [] => .ok []
  | column :: columns => do
    let value ←
      (Cell.decode (cells.head?.getD .null) column.wireType).mapError (.atCell column.name index)
    let rest ← decodeCells index columns cells.tail
    return (column.name, value) :: rest

/-- The rows from number `index` on. -/
def decodeRows (columns : List ResultColumn) (index : Nat) :
    List (List Json) → Except SqlError (List Row)
  | [] => .ok []
  | cells :: rows => do
    let pairs ← decodeCells index columns cells
    let rest ← decodeRows columns (index + 1) rows
    return Keyed.ofList pairs :: rest

end Row

/-- The rows of a response. A response without columns or without rows has none. -/
def Response.decodeRows (response : Response) : Except SqlError (List Row) :=
  match response.columns, response.rows with
  | some columns, some rows => Row.decodeRows columns 0 rows
  | _, _ => .ok []

end SeriesSql
