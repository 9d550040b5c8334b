import SeriesSql.Text.CodeTable
import SeriesSql.Text.Extender

/-!
# Direction of writing

The characters of some scripts are written from right to left. Numbers have a direction of their
own, and punctuation and symbols take the one of the text around them. The rule for labels of domain
names keeps a label from being shown in an order that another label could have.
-/

namespace SeriesSql.Text

/-- How a character takes part in the direction of a text. -/
inductive Direction where
  | left
  | right
  | arabicNumber
  | europeanNumber
  | mark
  | neutral
deriving DecidableEq, Repr

namespace Direction

/-- The characters of each direction but the first, without marks. -/
def rows : List (Direction × String) :=
  [(.right, "5BE-5F4 608 60B 60D 61B-64A 66D-6D5 6E5-6E6 6EE-6EF 6FA-7F5 7FA-8C9"),
    (.right, "FBB2-FBD2 FD90-FDCE FE73 10800-1091B 10920-10B35 10B40-10D23"),
    (.right, "10D40-10D8F 10E80-10FF6 1E800-1ED3D"),
    (.arabicNumber, "660-669 66B-66C 10D30-10D39 10E60-10E7E"),
    (.europeanNumber, "30-39 6F0-6F9 102E1-102FB"),
    (.neutral, "0-2F 3A-60 7B-D7 F7 2B9-2BA 2C2-2CF 2D2-2ED 2EF-2FF 375 3F6 58A-58F"),
    (.neutral, "606-607 609-60A 60C 60E-60F 66A 6DE 6E9 7F6-7F9 9F2-9F3 9FB AF1"),
    (.neutral, "BF3-BFA C78-C7E E3F F3A-F3D 1390-1399 1400 169B-169C 17DB 17F0-180A"),
    (.neutral, "1940-1945 19DE-19FF 1B4E-1B4F 1B7F 200C-214D 218A-2335 237B-2394"),
    (.neutral, "2396-26AB 26AD-27FF 2900-2BFF 2CE5-2CEA 2CF9-2CFF 2E00-3004 3008-3020"),
    (.neutral, "3030 3037 303D-303F 30A0 30FB 31C0-31E5 4DC0-4DFF A490-A4C6 A60D-A60F"),
    (.neutral, "A673-A67F A700-A721 A788 A828-A82B A838-A839 A874-A877 AB6A-AB6B"),
    (.neutral, "FD3E-FD4F FDCF-FE46 10101 10140-1018C 10190-101A0 1091F 10B39-10B3F"),
    (.neutral, "11052-11065 113D4-113D8 11660-1166C 11BE1 11FD5-11FF1 16D6D-16D6F"),
    (.neutral, "16FE2 1CC00-1CEF0 1D1E9-1D245 1D300-1D356 1E2FF 1E5FF 1EEF0-1F12F"),
    (.neutral, "1F16D-1F16F 1F1AD 1F260-1FBFA")]

/-- The extenders that do not take the direction of the character before them. -/
def ownRows : List String :=
  ["9BE 9D7 B3E B57 BBE BD7 CBF-CC0 CC2 CC6-CC8 CCA-CCB CD5-CD6 D3E D57 DCF DDF 1715 1734",
    "1B35 1B3B 1B3D 1B43-1B44 1BAA 1BF2-1BF3 200C 302E-302F A953 A9C0 111C0 11235 1133E",
    "1134D 11357 113B8 113C2 113C5 113C7-113C9 113CF 114B0 114BD 115AF 116B6 11930 1193D",
    "11A07-11A08 11C3F 11F41 16FF0-16FF1 1D165-1D166 1D16D-1D172"]

def ownRanges : Array (Nat × Nat) :=
  (ownRows.flatMap CodeTable.ranges).toArray

def table : Array (Nat × Nat × Direction) :=
  (rows.flatMap fun (direction, row) =>
    (CodeTable.ranges row).map fun (lo, hi) => (lo, hi, direction)).toArray

def ofChar (c : Char) : Direction :=
  let n := c.toNat
  if isExtender c && !ownRanges.any (CodeTable.has n) then mark
  else ((table.find? fun (lo, hi, _) => lo ≤ n && n ≤ hi).map (·.2.2)).getD left

/-- A direction that makes its whole text be read from right to left. -/
def isRight : Direction → Bool
  | right | arabicNumber => true
  | _ => false

def fitLeft (label : List Direction) : Bool :=
  label.all ([left, europeanNumber, mark, neutral].contains ·) &&
    (label.reverse.find? (· != mark)).any ([left, europeanNumber].contains ·)

/-- Whether the directions of a label that is written from right to left fit together. It does not
mix the two kinds of numbers. -/
def fitRight (label : List Direction) : Bool :=
  label.all ([right, arabicNumber, europeanNumber, mark, neutral].contains ·) &&
    (label.reverse.find? (· != mark)).any ([right, arabicNumber, europeanNumber].contains ·) &&
    !(label.contains arabicNumber && label.contains europeanNumber)

/-- Whether the directions of a label fit together. Its first character decides which way it is
written. -/
def fit (label : List Direction) : Bool :=
  match label with
  | [] => true
  | left :: _ => fitLeft label
  | right :: _ => fitRight label
  | _ => false

end Direction
end SeriesSql.Text
