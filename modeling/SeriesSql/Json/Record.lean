import SeriesSql.Json.Document
import SeriesSql.Keyed

/-!
# Records in documents

A record is written as an object, where other fields are skipped and no field may come twice, or as
an array of its fields in their order. A field may go by several names. A field that may be absent
has a value to take its place; in an array only the last fields can be absent.
-/

namespace SeriesSql.Document

def asText? : Document → Option String
  | string text => text
  | _ => none

def asBool? : Document → Option Bool
  | bool b => some b
  | _ => none

/-- A natural number below a bound, written with digits alone. -/
def asNatBelow? (bound : Nat) : Document → Option Nat
  | number text => (Integer.digits? text.toList).filter (· < bound)
  | _ => none

def asList? {α : Type} (read? : Document → Option α) : Document → Option (List α)
  | array items => items.mapM read?
  | _ => none

/-- The fields of an object, each under its own name, in order. A repeated name keeps its first
place and takes the last value. -/
def asKeyed? {α : Type} (read? : Document → Option α) : Document → Option (Keyed α)
  | object fields =>
    let pairs := fields.mapM fun field => do return (← field.1, ← read? field.2)
    pairs.map Keyed.ofList
  | _ => none

/-- One of a few names: a string, or an object whose only field has the name and holds null. -/
def asName? : Document → Option String
  | string text => text
  | object [(name, null)] => name
  | _ => none

/-- Nothing for null, else what the document holds. -/
def asOptional? {α : Type} (read? : Document → Option α) : Document → Option (Option α)
  | null => some none
  | document => (read? document).map some

def addField? (names : List (List String)) (fields : Keyed Document)
    (field : Option String × Document) : Option (Keyed Document) := do
  let name ← field.1
  match names.find? (·.contains name) with
  | some (key :: _) => if fields.contains key then none else return fields.insert key field.2
  | _ => return fields

/-- The fields of a record, each under the first of its names. -/
def asRecord? (names : List (List String)) : Document → Option (Keyed Document)
  | object fields => fields.foldlM (addField? names) Keyed.empty
  | array items =>
    if names.length < items.length then none
    else some (Keyed.ofList ((names.filterMap List.head?).zip items))
  | _ => none

def required? {α : Type} (fields : Keyed Document) (name : String) (read? : Document → Option α) :
    Option α :=
  fields.get? name >>= read?

/-- A field that has a value when it is absent. -/
def withDefault? {α : Type} (fields : Keyed Document) (name : String)
    (read? : Document → Option α) (default : α) : Option α :=
  match fields.get? name with
  | some document => read? document
  | none => some default

def optional? {α : Type} (fields : Keyed Document) (name : String)
    (read? : Document → Option α) : Option (Option α) :=
  withDefault? fields name (asOptional? read?) none

end SeriesSql.Document
