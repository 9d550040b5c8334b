/-!
# Integers as text

Three readings of an integer. A plain integer has an optional sign and ASCII digits. A wide
integer may also be in another radix and may hold underscores after its first digit. A natural
number takes no minus sign. Each reading takes the whole text or nothing.
-/

namespace SeriesSql.Integer

/-- The value of an ASCII digit or letter as a digit of a radix up to 36. -/
def digitValue? (c : Char) : Option Nat :=
  let n := c.toNat
  if 0x30 ≤ n ∧ n ≤ 0x39 then some (n - 0x30)
  else if 0x61 ≤ n ∧ n ≤ 0x7A then some (n - 0x61 + 10)
  else if 0x41 ≤ n ∧ n ≤ 0x5A then some (n - 0x41 + 10)
  else none

/-- The number that digit values denote, the most significant first. -/
def ofDigits (radix : Nat) (digits : List Nat) : Nat :=
  digits.foldl (fun n d => n * radix + d) 0

/-- The number that a run of ASCII decimal digits denotes; no digits denote zero. -/
def ofDecimal (cs : List Char) : Nat :=
  ofDigits 10 (cs.map fun c => c.toNat - 0x30)

def digits? (cs : List Char) : Option Nat :=
  if cs.isEmpty || !cs.all Char.isDigit then none else some (ofDecimal cs)

/-- ASCII digits after an optional plus sign. -/
def natural? : List Char → Option Nat
  | '+' :: cs => digits? cs
  | cs => digits? cs

/-- ASCII digits after an optional sign. -/
def plain? : List Char → Option Int
  | '-' :: cs => (digits? cs).map fun n => -(n : Int)
  | '+' :: cs => (digits? cs).map Int.ofNat
  | cs => (digits? cs).map Int.ofNat

/-- A plain integer between two bounds, which are included. -/
def within? (lo hi : Int) (cs : List Char) : Option Int :=
  (plain? cs).filter fun n => lo ≤ n && n ≤ hi

/-- A natural number below a bound, which is excluded. -/
def below? (bound : Nat) (cs : List Char) : Option Nat :=
  (natural? cs).filter (· < bound)

/-- Digits of a radix, where underscores may stand anywhere but first. -/
def spacedDigits? (radix : Nat) (cs : List Char) : Option Nat :=
  if cs.isEmpty || cs.head? == some '_' then none
  else
    ((cs.filter (· != '_')).mapM fun c => (digitValue? c).filter (· < radix)).map (ofDigits radix)

def wide? (radix : Nat) : List Char → Option Int
  | '-' :: cs => (spacedDigits? radix cs).map fun n => -(n : Int)
  | '+' :: cs => (spacedDigits? radix cs).map Int.ofNat
  | cs => (spacedDigits? radix cs).map Int.ofNat

def hex (n : Nat) : List Char :=
  Nat.toDigits 16 n

end SeriesSql.Integer
