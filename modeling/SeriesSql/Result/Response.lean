import SeriesSql.Json.Record

/-!
# Responses

The body that the engine answers a statement with. A query has columns and rows, a change of the
schema or of rows has an acknowledgement. Cells stay JSON until their columns' types are looked at.
-/

namespace SeriesSql

structure ResultColumn where
  name : String
  wireType : String
deriving DecidableEq, Repr

/-- A response, any part of which may be missing. -/
structure Response where
  query : Option String
  columns : Option (List ResultColumn)
  rows : Option (List (List Json))
  count : Option Nat
  ddl : Option String
  dml : Option String
  updated : Option Nat

def ResultColumn.ofDocument? (document : Document) : Option ResultColumn := do
  let fields ← document.asRecord? [["name"], ["type"]]
  return {
    name := ← Document.required? fields "name" Document.asText?
    wireType := ← Document.required? fields "type" Document.asText? }

def ResultColumn.toJson (column : ResultColumn) : Json :=
  .object [("name", .string column.name), ("type", .string column.wireType)]

namespace Response

def empty : Response :=
  { query := none
    columns := none
    rows := none
    count := none
    ddl := none
    dml := none
    updated := none }

/-- The fields of a response. The rows go by two names. -/
def fieldNames : List (List String) :=
  [["query"], ["columns"], ["rows", "dataset"], ["count"], ["ddl"], ["dml"], ["updated"]]

/-- How deep a cell may nest, inside its row, the rows and the response. -/
def cellDepth : Nat := Document.maxDepth - 3

def ofDocument? (document : Document) : Option Response := do
  let fields ← document.asRecord? fieldNames
  let number := Document.asNatBelow? UInt64.size
  let row := Document.asList? (Document.toJson? cellDepth)
  return {
    query := ← Document.optional? fields "query" Document.asText?
    columns := ← Document.optional? fields "columns" (Document.asList? ResultColumn.ofDocument?)
    rows := ← Document.optional? fields "rows" (Document.asList? row)
    count := ← Document.optional? fields "count" number
    ddl := ← Document.optional? fields "ddl" Document.asText?
    dml := ← Document.optional? fields "dml" Document.asText?
    updated := ← Document.optional? fields "updated" number }

def ofText? (s : String) : Option Response :=
  Document.ofText? s >>= ofDocument?

/-- A response as JSON, without the parts that are missing. -/
def toJson (response : Response) : Json :=
  let field (name : String) (value : Option Json) : List (String × Json) :=
    (value.map fun json => (name, json)).toList
  .object (
    field "query" (response.query.map .string) ++
    field "columns" (response.columns.map fun columns =>
      .array (columns.map ResultColumn.toJson)) ++
    field "rows" (response.rows.map fun rows => .array (rows.map .array)) ++
    field "count" (response.count.map fun n => .number (toString n)) ++
    field "ddl" (response.ddl.map .string) ++
    field "dml" (response.dml.map .string) ++
    field "updated" (response.updated.map fun n => .number (toString n)))

def toText (response : Response) : String :=
  response.toJson.toText

end Response
end SeriesSql
