/-!
# Base64

The standard alphabet with required padding. A text is decoded strictly: four symbols give three
bytes, only the last group may be padded, and the bits it does not use are zero.
-/

namespace SeriesSql.Base64

/-- Why a text is not the encoding of bytes. Positions count bytes from zero. -/
inductive Fault where
  | symbol (byte : UInt8) (offset : Nat)
  | length (offset : Nat)
  | padding
  | lastSymbol (byte : UInt8) (offset : Nat)
deriving DecidableEq, Repr

def Fault.message : Fault → String
  | symbol byte offset => s!"Invalid symbol {byte}, offset {offset}."
  | length offset => s!"Invalid input length: {offset}"
  | padding => "Invalid padding"
  | lastSymbol byte offset => s!"Invalid last symbol {byte}, offset {offset}."

def pad : UInt8 := '='.toUInt8

/-- The six bits of a symbol. -/
def symbolValue? (byte : UInt8) : Option Nat :=
  let n := byte.toNat
  if 0x41 ≤ n ∧ n ≤ 0x5A then some (n - 0x41)
  else if 0x61 ≤ n ∧ n ≤ 0x7A then some (n - 0x61 + 26)
  else if 0x30 ≤ n ∧ n ≤ 0x39 then some (n - 0x30 + 52)
  else if n = 0x2B then some 62
  else if n = 0x2F then some 63
  else none

def groupBytes (values : List Nat) : List UInt8 :=
  let n := values.foldl (fun n value => n * 64 + value) 0
  [UInt8.ofNat (n / 65536), UInt8.ofNat (n / 256), UInt8.ofNat n]

/-- The values of symbols, of which the first stands at `offset`. -/
def values? (offset : Nat) : List UInt8 → Except Fault (List Nat)
  | [] => .ok []
  | byte :: rest =>
    match symbolValue? byte with
    | none => .error (.symbol byte offset)
    | some value => (values? (offset + 1) rest).map (value :: ·)

/-- The values of the symbols of the last group, which starts at `start`. `index` counts its bytes
and `firstPad` is the index of the first padding byte. -/
def lastValues? (start index : Nat) (firstPad : Option Nat) : List UInt8 → Except Fault (List Nat)
  | [] => .ok []
  | byte :: rest =>
    if byte = pad then
      if index < 2 then .error (.symbol byte (start + index))
      else lastValues? start (index + 1) (firstPad <|> some index) rest
    else
      match firstPad, symbolValue? byte with
      | some i, _ => .error (.symbol pad (start + i))
      | none, none => .error (.symbol byte (start + index))
      | none, some value => (lastValues? start (index + 1) none rest).map (value :: ·)

/-- The bytes of the last group, which starts at `start`. -/
def lastGroup? (start : Nat) (group : List UInt8) : Except Fault (List UInt8) := do
  let values ← lastValues? start 0 none group
  if values.length < 2 then throw (.length (start + values.length))
  if group.length % 4 ≠ 0 then throw .padding
  let unused := 1 <<< (2 * (4 - values.length))
  let last := values.getLast?.getD 0
  if last % unused ≠ 0 then
    throw (.lastSymbol ((group[values.length - 1]?).getD pad) (start + values.length - 1))
  return (groupBytes (values ++ List.replicate (4 - values.length) 0)).take (values.length - 1)

/-- The bytes of the groups of a text, of which the first stands at `offset`. -/
def groups? (offset : Nat) : List UInt8 → Except Fault (List UInt8)
  | a :: b :: c :: d :: e :: rest => do
    let values ← values? offset [a, b, c, d]
    let bytes ← groups? (offset + 4) (e :: rest)
    return groupBytes values ++ bytes
  | [] => .ok []
  | group => lastGroup? offset group

def decode? (text : List UInt8) : Except Fault (List UInt8) :=
  match text.getLast? with
  | some byte =>
    if text.length % 4 = 1 ∧ byte ≠ pad ∧ symbolValue? byte = none then
      .error (.symbol byte (text.length - 1))
    else groups? 0 text
  | none => .ok []

end SeriesSql.Base64
