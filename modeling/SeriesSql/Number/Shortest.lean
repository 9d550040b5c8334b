import SeriesSql.Number.Double

/-!
# The shortest text of a double

The text of a finite double is the decimal number with the fewest digits among those that lie
nearer to it than to any other double, and of two with as few digits the nearer one. When both are
equally near, the greater one is taken.
-/

namespace SeriesSql

/-- A positive quotient with the quotients that bound the numbers nearest to it. All three have
the denominator `den`; the bounds belong to the range when `closed` says so. -/
structure RoundingRange where
  low : Nat
  value : Nat
  high : Nat
  den : Nat
  closed : Bool

namespace RoundingRange

/-- The numbers that round to the double with this rank. Below a power of two the doubles lie
twice as close. -/
def ofRank (rank : Nat) : RoundingRange :=
  let m := BinaryFormat.double.significand rank
  let e := BinaryFormat.double.exponent rank - 2
  let unit := 1 <<< e.toNat
  let binade := BinaryFormat.double.binade
  let below := if rank % binade = 0 ∧ binade < rank then 1 else 2
  { low := (4 * m - below) * unit
    value := 4 * m * unit
    high := (4 * m + 2) * unit
    den := 1 <<< (-e).toNat
    closed := m % 2 == 0 }

def admits (range : RoundingRange) (n : Nat) (exponent : Int) : Bool :=
  let scale := Decimal.powerOfTen (-exponent).toNat
  let x := n * (Decimal.powerOfTen exponent.toNat * range.den)
  if range.closed then range.low * scale ≤ x && x ≤ range.high * scale
  else range.low * scale < x && x < range.high * scale

/-- The number of digits before the point, negative when zeros follow the point. -/
def place (range : RoundingRange) : Int :=
  if range.den ≤ range.value then (Nat.toDigits 10 (range.value / range.den)).length
  else 1 - ((Nat.toDigits 10 ((range.den - 1) / range.value)).length : Int)

/-- The multiple of `10 ^ exponent` in the range that is nearest to the value, if one of the two
around the value lies in the range. -/
def multiple? (range : RoundingRange) (exponent : Int) : Option Nat :=
  let scale := Decimal.powerOfTen (-exponent).toNat
  let den := Decimal.powerOfTen exponent.toNat * range.den
  let n := range.value * scale / den
  match range.admits n exponent, range.admits (n + 1) exponent with
  | false, false => none
  | true, false => some n
  | false, true => some (n + 1)
  | true, true => some (if 2 * (range.value * scale) < (2 * n + 1) * den then n else n + 1)

/-- The shortest decimal number in the range as a significand and an exponent of ten. Seventeen
digits always suffice. -/
def shortest (range : RoundingRange) : Nat × Int :=
  let candidates := (List.range 17).map fun (n : Nat) => range.place - (n + 1 : Nat)
  (candidates.findSome? fun e => (range.multiple? e).map fun n => (n, e)).getD (0, 0)

end RoundingRange

namespace Double

def toDecimal (negative : Bool) (rank : Nat) : Decimal :=
  if rank = 0 then ⟨negative, 0, 0⟩
  else
    let (significand, exponent) := (RoundingRange.ofRank rank).shortest
    ⟨negative, significand, exponent⟩

/-- The shortest text that is read as this double. -/
def toText : Double → String
  | nan => "NaN"
  | infinite negative => if negative then "-inf" else "inf"
  | finite negative rank => (toDecimal negative rank).toText

end Double
end SeriesSql
