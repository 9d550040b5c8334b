import SeriesSql.Number.Decimal

/-!
# Double precision numbers

A finite double is a sign and a rank: the magnitudes are counted upwards from zero, so two
neighbours have ranks that differ by one. Every other number is rounded to the nearest magnitude,
a tie going to the one with the even rank, and to infinity when it lies above them all.
-/

namespace SeriesSql

/-- A binary floating-point format. Its positive magnitudes are the multiples of `2 ^ bottom` with
`precision` significant bits; `magnitudes` counts the finite ones and zero. -/
structure BinaryFormat where
  precision : Nat
  bottom : Int
  magnitudes : Nat

namespace BinaryFormat

def double : BinaryFormat := ⟨53, -1074, 0x7FF0000000000000⟩

def single : BinaryFormat := ⟨24, -149, 0x7F800000⟩

/-- The number of magnitudes from a power of two to the next one. -/
def binade (format : BinaryFormat) : Nat :=
  1 <<< (format.precision - 1)

/-- The integer significand of the magnitude with this rank. -/
def significand (format : BinaryFormat) (rank : Nat) : Nat :=
  if rank < format.binade then rank else format.binade + rank % format.binade

/-- The power of two that the significand of this rank is multiplied with. -/
def exponent (format : BinaryFormat) (rank : Nat) : Int :=
  if rank < format.binade then format.bottom
  else format.bottom + (rank / format.binade : Nat) - 1

/-- The nearest integer to a quotient, of two equally near ones the even one. -/
def roundHalfEven (num den : Nat) : Nat :=
  let quotient := num / den
  let twice := 2 * (num % den)
  if twice < den then quotient
  else if den < twice then quotient + 1
  else quotient + quotient % 2

/-- The greatest power of two that does not exceed a positive quotient. -/
def floorLog2 (num den : Nat) : Int :=
  let k : Int := (num.log2 : Int) - den.log2
  if num <<< (-k).toNat < den <<< k.toNat then k - 1 else k

/-- The rank of the magnitude nearest to a quotient, as if there were no greatest one. -/
def nearestRank (format : BinaryFormat) (num den : Nat) : Nat :=
  if num = 0 then 0
  else
    let e := max format.bottom (floorLog2 num den + 1 - format.precision)
    (e - format.bottom).toNat * format.binade +
      roundHalfEven (num <<< (-e).toNat) (den <<< e.toNat)

/-- The rank of the magnitude nearest to `significand * 10 ^ exponent`. A number far outside the
range of every format takes the rank of a power of ten on its side of the range. -/
def nearestRankOfDecimal (format : BinaryFormat) (significand : Nat) (exponent : Int) : Nat :=
  let place := (Nat.toDigits 10 significand).length + exponent
  if significand = 0 || place < -400 then 0
  else if 400 < place then format.nearestRank (Decimal.powerOfTen 400) 1
  else
    format.nearestRank (significand * Decimal.powerOfTen exponent.toNat)
      (Decimal.powerOfTen (-exponent).toNat)

end BinaryFormat

/-- A double precision number. The rank of a finite one is its pattern of bits without the sign. -/
inductive Double where
  | nan
  | infinite (negative : Bool)
  | finite (negative : Bool) (rank : Fin 0x7FF0000000000000)
deriving DecidableEq

namespace Double

/-- The double with this sign and rank, infinite above the greatest rank. -/
def ofRank (negative : Bool) (rank : Nat) : Double :=
  if h : rank < 0x7FF0000000000000 then finite negative ⟨rank, h⟩ else infinite negative

def ofDecimal (d : Decimal) : Double :=
  ofRank d.negative (BinaryFormat.double.nearestRankOfDecimal d.significand d.exponent)

def ofInt (n : Int) : Double :=
  ofRank (n < 0) (BinaryFormat.double.nearestRank n.natAbs 1)

/-- The nearest single precision number to a decimal number, as a double. -/
def ofDecimalSingle (d : Decimal) : Double :=
  let rank := BinaryFormat.single.nearestRankOfDecimal d.significand d.exponent
  if rank < BinaryFormat.single.magnitudes then
    let m := BinaryFormat.single.significand rank
    let e := BinaryFormat.single.exponent rank
    ofRank d.negative (BinaryFormat.double.nearestRank (m <<< e.toNat) (1 <<< (-e).toNat))
  else infinite d.negative

/-- Reads the name of an infinity or of the number that is none, in any case, and any other text
as a decimal number through `ofDecimal`. -/
def ofTextWith? (ofDecimal : Decimal → Double) (cs : List Char) : Option Double :=
  let (negative, body) :=
    match cs with
    | '-' :: cs => (true, cs)
    | '+' :: cs => (false, cs)
    | cs => (false, cs)
  match String.ofList (body.map Char.toLower) with
  | "nan" => some nan
  | "inf" | "infinity" => some (infinite negative)
  | _ => (Decimal.ofText? cs).map ofDecimal

def ofText? (cs : List Char) : Option Double :=
  ofTextWith? ofDecimal cs

def ofSingleText? (cs : List Char) : Option Double :=
  ofTextWith? ofDecimalSingle cs

def isFinite : Double → Bool
  | finite .. => true
  | _ => false

def isZero : Double → Bool
  | finite _ rank => rank.val == 0
  | _ => false

/-- The integer that a double without a fraction is. -/
def toInt? : Double → Option Int
  | finite negative rank =>
    let m := BinaryFormat.double.significand rank
    let e := BinaryFormat.double.exponent rank
    let num := m <<< e.toNat
    let den := 1 <<< (-e).toNat
    if num % den = 0 then some (if negative then -(num / den : Nat) else (num / den : Nat))
    else none
  | _ => none

end Double
end SeriesSql
