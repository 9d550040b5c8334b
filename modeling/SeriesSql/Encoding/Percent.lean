/-!
# Percent encoding

Bytes are written as a percent sign and two hexadecimal digits. A text is encoded character by
character in UTF-8; which characters of ASCII are kept is up to the place of the text. The form
encoding of a query writes a space as a plus sign.
-/

namespace SeriesSql.Percent

/-- The capital hexadecimal digit of a number below sixteen. -/
def hexDigit (n : Nat) : Char :=
  if n < 10 then Char.ofNat (0x30 + n) else Char.ofNat (0x41 + n - 10)

def encodeByte (byte : UInt8) : List Char :=
  ['%', hexDigit (byte.toNat / 16), hexDigit (byte.toNat % 16)]

def encodeChar (c : Char) : List Char :=
  (String.utf8EncodeChar c).flatMap encodeByte

/-- The text with the characters that `keeps` does not keep, and all those above ASCII, encoded. -/
def encode (keeps : Char → Bool) (cs : List Char) : List Char :=
  cs.flatMap fun c => if c.toNat < 0x80 && keeps c then [c] else encodeChar c

def isFormChar (c : Char) : Bool :=
  c.isAlphanum || c == '*' || c == '-' || c == '.' || c == '_'

def formChar (c : Char) : List Char :=
  if c = ' ' then ['+'] else if isFormChar c then [c] else encodeChar c

/-- The text as a part of a form. -/
def formEncode (cs : List Char) : List Char :=
  cs.flatMap formChar

def hexValue? (byte : UInt8) : Option Nat :=
  let n := byte.toNat
  if 0x30 ≤ n ∧ n ≤ 0x39 then some (n - 0x30)
  else if 0x41 ≤ n ∧ n ≤ 0x46 then some (n - 0x41 + 10)
  else if 0x61 ≤ n ∧ n ≤ 0x66 then some (n - 0x61 + 10)
  else none

/-- The bytes with every percent sign before two hexadecimal digits decoded. -/
def decode : List UInt8 → List UInt8
  | [] => []
  | percent :: a :: b :: rest =>
    match percent == 0x25, hexValue? a, hexValue? b with
    | true, some high, some low => UInt8.ofNat (high * 16 + low) :: decode rest
    | _, _, _ => percent :: decode (a :: b :: rest)
  | byte :: rest => byte :: decode rest

end SeriesSql.Percent
