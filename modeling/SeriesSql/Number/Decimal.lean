import SeriesSql.Number.Integer

/-!
# Decimal numbers

A decimal number is a signed natural number times a power of ten. It is read from digits with an
optional point and an optional exponent, and written with neither an exponent nor zeros that end
its fraction.
-/

namespace SeriesSql

/-- The number `± significand * 10 ^ exponent`; zero has a sign too. -/
structure Decimal where
  negative : Bool
  significand : Nat
  exponent : Int
deriving DecidableEq, Repr

namespace Decimal

def powerOfTen (exponent : Nat) : Nat :=
  Nat.pow 10 exponent

/-- The exponent that ends a number, zero when there is none. -/
def exponent? : List Char → Option Int
  | [] => some 0
  | 'e' :: cs => Integer.plain? cs
  | 'E' :: cs => Integer.plain? cs
  | _ => none

/-- Digits with an optional point, at least one digit, and an optional exponent. -/
def unsigned? (negative : Bool) (cs : List Char) : Option Decimal :=
  let whole := cs.takeWhile Char.isDigit
  let (fraction, rest) :=
    match cs.dropWhile Char.isDigit with
    | '.' :: rest => (rest.takeWhile Char.isDigit, rest.dropWhile Char.isDigit)
    | rest => ([], rest)
  if whole.isEmpty && fraction.isEmpty then none
  else
    (exponent? rest).map fun e =>
      ⟨negative, Integer.ofDecimal (whole ++ fraction), e - fraction.length⟩

def ofText? : List Char → Option Decimal
  | '-' :: cs => unsigned? true cs
  | '+' :: cs => unsigned? false cs
  | cs => unsigned? false cs

/-- The digits of a fraction, without the zeros at its end. -/
def fractionDigits (cs : List Char) : List Char :=
  (cs.reverse.dropWhile (· == '0')).reverse

def positional (significand : Nat) (exponent : Int) : List Char :=
  let digits := Nat.toDigits 10 significand
  if 0 ≤ exponent then
    if significand = 0 then ['0'] else digits ++ List.replicate exponent.toNat '0'
  else
    let places := (-exponent).toNat
    let padded := List.replicate (places + 1 - digits.length) '0' ++ digits
    let whole := padded.take (padded.length - places)
    match fractionDigits (padded.drop (padded.length - places)) with
    | [] => whole
    | fraction => whole ++ '.' :: fraction

def toText (d : Decimal) : String :=
  let text := positional d.significand d.exponent
  String.ofList (if d.negative then '-' :: text else text)

end Decimal
end SeriesSql
