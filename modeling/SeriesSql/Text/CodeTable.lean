import SeriesSql.Number.Integer

/-!
# Tables of code points

A large table of characters is kept as text, with code points in hexadecimal. A table of ranges has
words such as `41-5A`, or `5F` for a single code point. A table of entries has runs that end at a
semicolon: the first code point of the run, and then what it and its successors stand for, one word
each, where `+` joins several code points.
-/

namespace SeriesSql.Text.CodeTable

/-- The code point that hexadecimal digits denote. -/
def code (digits : List Char) : Nat :=
  Integer.ofDigits 16 (digits.filterMap Integer.digitValue?)

def words (cs : List Char) : List (List Char) :=
  (cs.splitOn ' ').filter (!·.isEmpty)

def range (word : List Char) : Nat × Nat :=
  match (word.splitOn '-').map code with
  | [lo, hi] => (lo, hi)
  | codes => (codes.headD 0, codes.headD 0)

def ranges (row : String) : List (Nat × Nat) :=
  (words row.toList).map range

def run (cs : List Char) : List (Nat × List Nat) :=
  match words cs with
  | [] => []
  | start :: targets =>
    ((targets.map fun word => (word.splitOn '+').map code).zipIdx (code start)).map Prod.swap

def entries (row : String) : List (Nat × List Nat) :=
  (row.toList.splitOn ';').flatMap run

def has (n : Nat) (range : Nat × Nat) : Bool :=
  range.1 ≤ n && n ≤ range.2

end SeriesSql.Text.CodeTable
