import SeriesSql.Time.Timestamp
import SeriesSql.Number.Decimal
import SeriesSql.Text.Property

/-!
# Timestamps as ISO 8601 text

A timestamp is written as a date, the letter `T`, a time of day with a chosen number of fraction
digits, and the offset of UTC. It is read in two forms. The strict form has a fixed number of
digits in each place and an offset. The plain form has no offset and means UTC; it allows white
space before each number, numbers with fewer digits, and years with a sign and more digits.
-/

namespace SeriesSql.Timestamp

/-- The digits of a number, with zeros before it up to a width. -/
def padded (width n : Nat) : List Char :=
  let digits := Nat.toDigits 10 n
  List.replicate (width - digits.length) '0' ++ digits

/-- A year: four digits, and outside of four digits also a sign. -/
def yearChars (year : Int) : List Char :=
  if year < 0 then '-' :: padded 4 year.natAbs
  else if 9999 < year then '+' :: padded 4 year.natAbs
  else padded 4 year.natAbs

/-- The first so many of the nine digits of a fraction with their point; no digits have no point. -/
def fractionChars (places nanos : Nat) : List Char :=
  if places = 0 then [] else '.' :: padded places (nanos / Decimal.powerOfTen (9 - places))

def dateTimeChars (places : Nat) (t : Timestamp) : List Char :=
  yearChars t.date.year ++ '-' :: padded 2 t.date.month ++ '-' :: padded 2 t.date.day ++
    'T' :: padded 2 t.hour ++ ':' :: padded 2 t.minute ++ ':' :: padded 2 t.second ++
    fractionChars places t.fraction

def toUtcText (places : Nat) (t : Timestamp) : String :=
  String.ofList (dateTimeChars places t ++ ['Z'])

/-- The fewest of 0, 3, 6 and 9 fraction digits that lose nothing. -/
def exactPlaces (t : Timestamp) : Nat :=
  if t.fraction % 1000000000 = 0 then 0
  else if t.fraction % 1000000 = 0 then 3
  else if t.fraction % 1000 = 0 then 6
  else 9

/-- The text with the fewest fraction digits that lose nothing and the offset of UTC. -/
def toText (t : Timestamp) : String :=
  String.ofList (dateTimeChars t.exactPlaces t ++ ['+', '0', '0', ':', '0', '0'])

/-- A reading of the start of a text, which leaves the rest. -/
abbrev Reading (α : Type) := List Char → Option (α × List Char)

def fixed? (width : Nat) : Reading Nat := fun cs =>
  let digits := cs.take width
  if digits.length = width ∧ digits.all Char.isDigit then
    some (Integer.ofDecimal digits, cs.drop width)
  else none

def upTo? (width : Nat) : Reading Nat := fun cs =>
  match (cs.take width).takeWhile Char.isDigit with
  | [] => none
  | digits => some (Integer.ofDecimal digits, cs.drop digits.length)

def oneOf? (allowed : List Char) : Reading Char
  | [] => none
  | c :: rest => if c ∈ allowed then some (c, rest) else none

/-- The nanoseconds that the digits after a point denote; digits after the ninth are ignored. -/
def fraction? : Reading Nat
  | '.' :: cs =>
    match cs.takeWhile Char.isDigit with
    | [] => none
    | digits =>
      let first := digits.take 9
      let nanos := Integer.ofDecimal first * Decimal.powerOfTen (9 - first.length)
      some (nanos, cs.dropWhile Char.isDigit)
  | cs => some (0, cs)

/-- The minutes by which local time is ahead of UTC. -/
def offset? : Reading Int
  | 'Z' :: cs => some (0, cs)
  | 'z' :: cs => some (0, cs)
  | cs => do
    let (sign, cs) ← oneOf? ['+', '-', '\u2212'] cs
    let (hours, cs) ← fixed? 2 cs
    let (_, cs) ← oneOf? [':'] cs
    let (minutes, cs) ← fixed? 2 cs
    if 24 ≤ hours ∨ 60 ≤ minutes then none
    else
      let ahead : Int := hours * 60 + minutes
      some (if sign == '+' then ahead else -ahead, cs)

def ofFields? (date : Date) (hour minute second fraction : Nat) : Option Timestamp :=
  if date.isValid ∧ hour < 24 ∧ minute < 60 ∧ second ≤ 60 then
    some (ofDateTime date hour minute second fraction)
  else none

def ofStrictText? (cs : List Char) : Option Timestamp := do
  let (year, cs) ← fixed? 4 cs
  let (_, cs) ← oneOf? ['-'] cs
  let (month, cs) ← fixed? 2 cs
  let (_, cs) ← oneOf? ['-'] cs
  let (day, cs) ← fixed? 2 cs
  let (_, cs) ← oneOf? ['T', 't', ' '] cs
  let (hour, cs) ← fixed? 2 cs
  let (_, cs) ← oneOf? [':'] cs
  let (minute, cs) ← fixed? 2 cs
  let (_, cs) ← oneOf? [':'] cs
  let (second, cs) ← fixed? 2 cs
  let (fraction, cs) ← fraction? cs
  let (ahead, cs) ← offset? cs
  if cs.isEmpty then
    let t ← ofFields? ⟨year, month, day⟩ hour minute second fraction
    ofSeconds? (t.seconds - ahead * 60) t.nanos
  else none

def spaced? : Reading Nat := fun cs =>
  upTo? 2 (Text.skipBlank cs)

/-- A year after white space: up to four digits, or a sign and any number of digits. -/
def year? : Reading Int := fun cs =>
  match Text.skipBlank cs with
  | '-' :: cs => (upTo? cs.length cs).map fun (year, rest) => (-(year : Int), rest)
  | '+' :: cs => (upTo? cs.length cs).map fun (year, rest) => (year, rest)
  | cs => (upTo? 4 cs).map fun (year, rest) => (year, rest)

def ofPlainText? (cs : List Char) : Option Timestamp := do
  let (year, cs) ← year? cs
  let (_, cs) ← oneOf? ['-'] cs
  let (month, cs) ← spaced? cs
  let (_, cs) ← oneOf? ['-'] cs
  let (day, cs) ← spaced? cs
  let (_, cs) ← oneOf? ['T'] cs
  let (hour, cs) ← spaced? cs
  let (_, cs) ← oneOf? [':'] cs
  let (minute, cs) ← spaced? cs
  let (_, cs) ← oneOf? [':'] cs
  let (second, cs) ← spaced? cs
  let (fraction, cs) ← fraction? cs
  if cs.isEmpty then ofFields? ⟨year, month, day⟩ hour minute second fraction else none

/-- The instant of a text in the strict form, or else in the plain form. -/
def ofText? (s : String) : Option Timestamp :=
  ofStrictText? s.toList <|> ofPlainText? s.toList

end SeriesSql.Timestamp
