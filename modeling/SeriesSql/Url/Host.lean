import SeriesSql.Encoding.Percent
import SeriesSql.Number.Integer
import SeriesSql.Url.Domain

/-!
# Hosts

The host of a URL is an address or a name. An address of four bytes may be written with fewer
numbers, in octal or in hexadecimal; an address of eight groups stands in brackets. A name of a web
address is put into ASCII. Other hosts are kept as they are.
-/

namespace SeriesSql.Url.Host

/-- The number that digits of a radix denote; no digits denote zero. -/
def numberIn? (radix : Nat) (cs : List Char) : Option Nat :=
  (cs.mapM fun c => (Integer.digitValue? c).filter (· < radix)).map (Integer.ofDigits radix)

/-- One number of an address of four bytes, in the radix that its start tells. -/
def number? : List Char → Option Nat
  | [] => none
  | '0' :: 'x' :: cs => numberIn? 16 cs
  | '0' :: 'X' :: cs => numberIn? 16 cs
  | '0' :: c :: cs => numberIn? 8 (c :: cs)
  | cs => numberIn? 10 cs

/-- The parts of a name without an empty last one. -/
def labels (cs : List Char) : List (List Char) :=
  let parts := cs.splitOn '.'
  if parts.getLast? == some [] then parts.dropLast else parts

/-- Whether a name has to be read as an address of four bytes. -/
def endsInNumber (cs : List Char) : Bool :=
  match (labels cs).getLast? with
  | none => false
  | some last => (!last.isEmpty && last.all Char.isDigit) || (number? last).isSome

/-- An address of four bytes. The last number fills the bytes that are left. -/
def fourBytes? (cs : List Char) : Option String := do
  let parts := labels cs
  let numbers ← parts.mapM number?
  let last ← numbers.getLast?
  let leading := numbers.dropLast
  let bound := 1 <<< (8 * (4 - leading.length))
  if 4 < numbers.length || leading.any (255 < ·) || bound ≤ last then none
  else
    let bytes := (List.range (4 - leading.length)).reverse.map fun i => last >>> (8 * i) % 256
    return ".".intercalate ((leading ++ bytes).map toString)

def group? (cs : List Char) : Option Nat :=
  if cs.isEmpty || 4 < cs.length then none
  else numberIn? 16 cs

/-- One of four bytes in decimal, without zeros before it. -/
def byte? (cs : List Char) : Option Nat :=
  if cs.head? == some '0' && 1 < cs.length then none
  else (Integer.digits? cs).filter (· < 256)

/-- The two groups that four bytes in decimal give. -/
def embedded? (cs : List Char) : Option (List Nat) := do
  match ← (cs.splitOn '.').mapM byte? with
  | [a, b, c, d] => return [a * 256 + b, c * 256 + d]
  | _ => none

/-- Groups between colons, of which the last may be written as four bytes. -/
def groups? : List (List Char) → Option (List Nat)
  | [] => some []
  | [last] => if last.contains '.' then embedded? last else (group? last).map ([·])
  | part :: rest => do
    let group ← group? part
    let groups ← groups? rest
    return group :: groups

def groupsOfText? (cs : List Char) : Option (List Nat) :=
  if cs.isEmpty then some [] else groups? (cs.splitOn ':')

def splitGap : List Char → Option (List Char × List Char)
  | ':' :: ':' :: rest => some ([], rest)
  | c :: rest => (splitGap rest).map fun (before, after) => (c :: before, after)
  | [] => none

/-- The eight groups of an address. Two colons stand for one or more groups of zero; four bytes can
only come last. -/
def eightGroups? (cs : List Char) : Option (List Nat) :=
  match splitGap cs with
  | none => (groupsOfText? cs).filter fun groups => groups.length == 8
  | some (before, after) => do
    let left ← groupsOfText? before
    let right ← groupsOfText? after
    if before.contains '.' || 7 < left.length + right.length then none
    else return left ++ List.replicate (8 - left.length - right.length) 0 ++ right

/-- How many groups of zero an address has from each of its groups on. -/
def zeroRuns : List Nat → List Nat
  | [] => []
  | group :: rest =>
    let runs := zeroRuns rest
    (if group = 0 then runs.head?.getD 0 + 1 else 0) :: runs

/-- The text of an address of eight groups. Two colons replace the first of the longest runs of two
or more groups of zero. -/
def groupsText (groups : List Nat) : String :=
  let runs := zeroRuns groups
  let longest := runs.foldl max 0
  let text (groups : List Nat) : String :=
    ":".intercalate (groups.map fun group => String.ofList (Integer.hex group))
  let gap := runs.takeWhile (· ≠ longest)
  if longest < 2 then "[" ++ text groups ++ "]"
  else
    "[" ++ text (groups.take gap.length) ++ "::" ++ text (groups.drop (gap.length + longest)) ++ "]"

def bracketed? (cs : List Char) : Option String :=
  if cs.getLast? == some ']' then (eightGroups? cs.dropLast).map groupsText else none

def isForbidden (c : Char) : Bool :=
  "\x00\t\n\r #/:<>?@[\\]^|".toList.contains c

def web? (cs : List Char) : Option String := do
  let bytes := Percent.decode (String.ofList cs).toUTF8.toList
  let decoded ← String.fromUTF8? ⟨bytes.toArray⟩
  let name ← Domain.toAscii? decoded.toList
  let isRefused (c : Char) : Bool := isForbidden c || c.toNat < 0x21 || c == '%' || c == '\x7f'
  if name.isEmpty || name.any isRefused then none
  else if endsInNumber name then fourBytes? name
  else return String.ofList name

def foreign? (cs : List Char) : Option String :=
  if cs.any isForbidden then none
  else some (String.ofList (Percent.encode (fun c => 0x20 ≤ c.toNat && c != '\x7f') cs))

/-- The text of a host in a URL of the web, or of another scheme. -/
def ofText? (web : Bool) : List Char → Option String
  | '[' :: cs => bracketed? cs
  | cs => if web then web? cs else foreign? cs

end SeriesSql.Url.Host
