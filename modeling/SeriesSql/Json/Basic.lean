import SeriesSql.Number.Integer

/-!
# JSON values and their compact text

A number is kept as its text, so no digit of it is lost. The fields of an object that was read from
a document are ordered by name and have distinct names. The compact text has no white space, and
escapes only quotes, backslashes and the characters below the space.
-/

namespace SeriesSql

inductive Json where
  | null
  | bool (b : Bool)
  | number (text : String)
  | string (s : String)
  | array (items : List Json)
  | object (fields : List (String × Json))

namespace Json

def escapedChar (c : Char) : List Char :=
  match c with
  | '"' => ['\\', '"']
  | '\\' => ['\\', '\\']
  | '\x08' => ['\\', 'b']
  | '\x0c' => ['\\', 'f']
  | '\n' => ['\\', 'n']
  | '\r' => ['\\', 'r']
  | '\t' => ['\\', 't']
  | c =>
    if c.toNat < 0x20 then
      let digits := Integer.hex c.toNat
      ['\\', 'u'] ++ List.replicate (4 - digits.length) '0' ++ digits
    else [c]

def quotedChars (s : String) : List Char :=
  '"' :: s.toList.flatMap escapedChar ++ ['"']

mutual

/-- The characters of the compact text. -/
def chars : Json → List Char
  | null => ['n', 'u', 'l', 'l']
  | bool true => ['t', 'r', 'u', 'e']
  | bool false => ['f', 'a', 'l', 's', 'e']
  | number text => text.toList
  | string s => quotedChars s
  | array [] => ['[', ']']
  | array (item :: rest) => '[' :: item.chars ++ itemsChars rest
  | object [] => ['\x7b', '\x7d']
  | object ((name, value) :: rest) =>
    '\x7b' :: quotedChars name ++ ':' :: value.chars ++ fieldsChars rest

/-- The items after the first one, and the end of the array. -/
def itemsChars : List Json → List Char
  | [] => [']']
  | item :: rest => ',' :: item.chars ++ itemsChars rest

/-- The fields after the first one, and the end of the object. -/
def fieldsChars : List (String × Json) → List Char
  | [] => ['\x7d']
  | (name, value) :: rest => ',' :: quotedChars name ++ ':' :: value.chars ++ fieldsChars rest

end

def toText (json : Json) : String :=
  String.ofList json.chars

/-- Inserts a field in the order of names; the value under a name that is there is replaced. -/
def insertField : List (String × Json) → String → Json → List (String × Json)
  | [], name, value => [(name, value)]
  | (key, old) :: rest, name, value =>
    if name < key then (name, value) :: (key, old) :: rest
    else if name = key then (key, value) :: rest
    else (key, old) :: insertField rest name value

/-- The fields in the order of names, the last value of each name. -/
def sortFields (fields : List (String × Json)) : List (String × Json) :=
  fields.foldl (fun sorted field => insertField sorted field.1 field.2) []

end Json
end SeriesSql
