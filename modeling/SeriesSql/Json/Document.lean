import SeriesSql.Json.Basic

/-!
# JSON documents

A document is a JSON text as it was written: the fields of an object keep their order and may
repeat a name. A string in which an escape names half of a surrogate pair is well formed but has no
text; it matters only to a reader that asks for its text. A number keeps its text, except that an
exponent is written with a small letter and a sign. An object whose first field has a reserved name
wraps a number.
-/

namespace SeriesSql

/-- The structure of a JSON text. -/
inductive Document where
  | null
  | bool (b : Bool)
  | number (text : String)
  | string (text : Option String)
  | array (items : List Document)
  | object (fields : List (Option String × Document))

namespace Document

def isSpace (c : Char) : Bool :=
  c == ' ' || c == '\t' || c == '\n' || c == '\r'

def skipSpace (cs : List Char) : List Char :=
  cs.dropWhile isSpace

/-- A piece of a string between its quotes: a character, or the sixteen bits that an escape
gives in hexadecimal. -/
inductive Piece where
  | char (c : Char)
  | code (n : Nat)

/-- The number that four hexadecimal digits denote. -/
def code? (cs : List Char) : Option Nat :=
  (cs.mapM fun c => (Integer.digitValue? c).filter (· < 16)).map (Integer.ofDigits 16)

/-- The character of an escape of one letter. -/
def escape? : Char → Option Char
  | '"' => some '"'
  | '\\' => some '\\'
  | '/' => some '/'
  | 'b' => some '\x08'
  | 'f' => some '\x0c'
  | 'n' => some '\n'
  | 'r' => some '\r'
  | 't' => some '\t'
  | _ => none

/-- The pieces of a string up to its closing quote, and the text after the quote. -/
def pieces? : List Char → Option (List Piece × List Char)
  | [] => none
  | '"' :: rest => some ([], rest)
  | '\\' :: 'u' :: a :: b :: c :: d :: rest => do
    let n ← code? [a, b, c, d]
    let (pieces, rest) ← pieces? rest
    return (.code n :: pieces, rest)
  | '\\' :: c :: rest => do
    let c ← escape? c
    let (pieces, rest) ← pieces? rest
    return (.char c :: pieces, rest)
  | c :: rest =>
    if c.toNat < 0x20 then none
    else do
      let (pieces, rest) ← pieces? rest
      return (.char c :: pieces, rest)

def isHighSurrogate (n : Nat) : Bool :=
  0xD800 ≤ n && n < 0xDC00

def isLowSurrogate (n : Nat) : Bool :=
  0xDC00 ≤ n && n < 0xE000

/-- The characters of the pieces, if every half of a surrogate pair stands beside its other half. -/
def joinPieces? : List Piece → Option (List Char)
  | [] => some []
  | .char c :: rest => (joinPieces? rest).map (c :: ·)
  | .code high :: .code low :: rest =>
    if isHighSurrogate high then
      if isLowSurrogate low then
        let c := Char.ofNat (0x10000 + (high - 0xD800) * 0x400 + (low - 0xDC00))
        (joinPieces? rest).map (c :: ·)
      else none
    else if isLowSurrogate high then none
    else (joinPieces? (.code low :: rest)).map (Char.ofNat high :: ·)
  | .code n :: rest =>
    if isHighSurrogate n || isLowSurrogate n then none
    else (joinPieces? rest).map (Char.ofNat n :: ·)

/-- A string after its opening quote: its text, if it has one, and what follows the string. -/
def stringBody? (cs : List Char) : Option (Option String × List Char) :=
  (pieces? cs).map fun (pieces, rest) => ((joinPieces? pieces).map String.ofList, rest)

def digits? (cs : List Char) : Option (List Char × List Char) :=
  match cs.takeWhile Char.isDigit with
  | [] => none
  | digits => some (digits, cs.dropWhile Char.isDigit)

/-- The digits before the point: a single zero, or digits that start with no zero. -/
def whole? (cs : List Char) : Option (List Char × List Char) :=
  (digits? cs).filter fun (digits, _) => digits.length == 1 || digits.head? != some '0'

/-- The fraction of a number with its point, which may be missing. -/
def fraction? : List Char → Option (List Char × List Char)
  | '.' :: cs => (digits? cs).map fun (digits, rest) => ('.' :: digits, rest)
  | cs => some ([], cs)

/-- The digits of an exponent after its letter, with its sign. -/
def signedExponent? : List Char → Option (List Char × List Char)
  | '+' :: cs => (digits? cs).map fun (digits, rest) => ('e' :: '+' :: digits, rest)
  | '-' :: cs => (digits? cs).map fun (digits, rest) => ('e' :: '-' :: digits, rest)
  | cs => (digits? cs).map fun (digits, rest) => ('e' :: '+' :: digits, rest)

def exponent? : List Char → Option (List Char × List Char)
  | 'e' :: cs => signedExponent? cs
  | 'E' :: cs => signedExponent? cs
  | cs => some ([], cs)

def magnitude? (cs : List Char) : Option (List Char × List Char) := do
  let (whole, cs) ← whole? cs
  let (fraction, cs) ← fraction? cs
  let (exponent, cs) ← exponent? cs
  return (whole ++ fraction ++ exponent, cs)

def number? : List Char → Option (Document × List Char)
  | '-' :: cs =>
    (magnitude? cs).map fun (text, rest) => (.number (String.ofList ('-' :: text)), rest)
  | cs => (magnitude? cs).map fun (text, rest) => (.number (String.ofList text), rest)

mutual

/-- A value, and what follows it. `fuel` bounds the number of nested and neighbouring values. -/
def value? : Nat → List Char → Option (Document × List Char)
  | 0, _ => none
  | fuel + 1, cs =>
    match skipSpace cs with
    | 'n' :: 'u' :: 'l' :: 'l' :: rest => some (.null, rest)
    | 't' :: 'r' :: 'u' :: 'e' :: rest => some (.bool true, rest)
    | 'f' :: 'a' :: 'l' :: 's' :: 'e' :: rest => some (.bool false, rest)
    | '"' :: rest => (stringBody? rest).map fun (text, rest) => (.string text, rest)
    | '[' :: rest =>
      match skipSpace rest with
      | ']' :: rest => some (.array [], rest)
      | rest => (items? fuel rest).map fun (items, rest) => (.array items, rest)
    | '\x7b' :: rest =>
      match skipSpace rest with
      | '\x7d' :: rest => some (.object [], rest)
      | rest => (fields? fuel rest).map fun (fields, rest) => (.object fields, rest)
    | rest => number? rest

def items? : Nat → List Char → Option (List Document × List Char)
  | 0, _ => none
  | fuel + 1, cs => do
    let (item, cs) ← value? fuel cs
    match skipSpace cs with
    | ']' :: rest => return ([item], rest)
    | ',' :: rest =>
      let (items, rest) ← items? fuel rest
      return (item :: items, rest)
    | _ => none

def fields? : Nat → List Char → Option (List (Option String × Document) × List Char)
  | 0, _ => none
  | fuel + 1, cs =>
    match skipSpace cs with
    | '"' :: cs => do
      let (name, cs) ← stringBody? cs
      match skipSpace cs with
      | ':' :: cs =>
        let (value, cs) ← value? fuel cs
        match skipSpace cs with
        | '\x7d' :: rest => return ([(name, value)], rest)
        | ',' :: rest =>
          let (fields, rest) ← fields? fuel rest
          return ((name, value) :: fields, rest)
        | _ => none
      | _ => none
    | _ => none

end

/-- The document that a text starts with, and what follows it. -/
def leading? (s : String) : Option (Document × List Char) :=
  value? (2 * s.toList.length + 1) s.toList

def isSpaces (cs : List Char) : Bool :=
  (skipSpace cs).isEmpty

def ofText? (s : String) : Option Document := do
  let (document, rest) ← leading? s
  if isSpaces rest then some document else none

/-- The reserved name of the field that wraps a number. -/
def numberFieldName : String := "$serde_json::private::Number"

/-- Whether the fields of an object start with one of the reserved name. -/
def wrapsNumber : List (Option String × Document) → Bool
  | (name, _) :: _ => name == some numberFieldName
  | [] => false

/-- The number of an object that wraps one. Its only field holds the text of a number. -/
def wrappedNumber? : List (Option String × Document) → Option Json
  | [(_, string (some text))] =>
    match number? text.toList with
    | some (number text, []) => some (.number text)
    | _ => none
  | _ => none

mutual

/-- The JSON value of a document in which every string has a text and at most `depth` arrays and
objects lie in one another. -/
def toJson? (depth : Nat) : Document → Option Json
  | null => some .null
  | bool b => some (.bool b)
  | number text => some (.number text)
  | string text => text.map .string
  | array items => if depth = 0 then none else (itemsToJson? (depth - 1) items).map .array
  | object fields =>
    if depth = 0 then none
    else if wrapsNumber fields then wrappedNumber? fields
    else (fieldsToJson? (depth - 1) fields).map fun fields => .object (Json.sortFields fields)

def itemsToJson? (depth : Nat) : List Document → Option (List Json)
  | [] => some []
  | item :: rest => do
    let item ← item.toJson? depth
    let rest ← itemsToJson? depth rest
    return item :: rest

def fieldsToJson? (depth : Nat) : List (Option String × Document) → Option (List (String × Json))
  | [] => some []
  | (name, value) :: rest => do
    let name ← name
    let value ← value.toJson? depth
    let rest ← fieldsToJson? depth rest
    return (name, value) :: rest

end

/-- How deep the arrays and objects of a text may nest. -/
def maxDepth : Nat := 127

end Document

def Json.ofText? (s : String) : Option Json :=
  Document.ofText? s >>= Document.toJson? Document.maxDepth

end SeriesSql
