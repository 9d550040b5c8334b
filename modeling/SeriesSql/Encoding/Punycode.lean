/-!
# Punycode

A label with characters above ASCII as letters and digits: first its ASCII characters, then the
differences between the other characters and their places, as numbers of variable length.
-/

namespace SeriesSql.Punycode

def digit (n : Nat) : Char :=
  if n < 26 then Char.ofNat (0x61 + n) else Char.ofNat (0x30 + n - 26)

/-- The threshold of the digit at a position: a smaller digit ends its number. -/
def threshold (bias position : Nat) : Nat :=
  min 26 (max 1 (position - bias))

/-- The digits of a number of variable length, of which the first stands at `position`. -/
def digits (bias position n : Nat) : List Char :=
  let t := threshold bias position
  if n < t then [digit n]
  else digit (t + (n - t) % (36 - t)) :: digits bias (position + 36) ((n - t) / (36 - t))
termination_by n
decreasing_by
  have hpos : 1 ≤ threshold bias position := by unfold threshold; omega
  exact Nat.lt_of_le_of_lt (Nat.div_le_self _ _) (by omega)

/-- The bias that a large difference leads to. -/
def largeBias (k delta : Nat) : Nat :=
  if 455 < delta then largeBias (k + 36) (delta / 35) else k + 36 * delta / (delta + 38)
termination_by delta

/-- The bias after a difference, when so many characters have been placed. -/
def adapt (delta placed : Nat) (first : Bool) : Nat :=
  let delta := if first then delta / 700 else delta / 2
  let delta := delta + delta / placed
  largeBias 0 delta

/-- What has been written of a label: the difference so far, the bias, the number of characters
placed, and the text. -/
structure State where
  delta : Nat
  bias : Nat
  placed : Nat
  text : List Char

/-- Goes past one character while the characters `code` are placed, of which `basic` come before. -/
def step (basic code : Nat) (state : State) (c : Char) : State :=
  if c.toNat < code then { state with delta := state.delta + 1 }
  else if c.toNat = code then
    { delta := 0
      bias := adapt state.delta (state.placed + 1) (state.placed = basic)
      placed := state.placed + 1
      text := state.text ++ digits state.bias 36 state.delta }
  else state

/-- Places the characters of each code in turn, starting from the code `next`. -/
def place (basic : Nat) (label : List Char) : (next : Nat) → List Nat → State → State
  | _, [], state => state
  | next, code :: codes, state =>
    let reached := { state with delta := state.delta + (code - next) * (state.placed + 1) }
    let placed := label.foldl (step basic code) reached
    place basic label (code + 1) codes { placed with delta := placed.delta + 1 }

def encode (label : List Char) : List Char :=
  let ascii := label.filter fun c => c.toNat < 0x80
  let codes := (label.map Char.toNat).filter (0x80 ≤ ·)
  let start := if ascii.isEmpty then [] else ascii ++ ['-']
  (place ascii.length label 0x80 codes.mergeSort.eraseDups ⟨0, 72, ascii.length, start⟩).text

def digitValue? (c : Char) : Option Nat :=
  let n := c.toNat
  if 0x61 ≤ n ∧ n ≤ 0x7A then some (n - 0x61)
  else if 0x41 ≤ n ∧ n ≤ 0x5A then some (n - 0x41)
  else if 0x30 ≤ n ∧ n ≤ 0x39 then some (n - 0x30 + 26)
  else none

/-- What has been read of a label: the text so far, the code and the place of the character before,
the bias, and of the number that is being read its value so far, added to that place, and the weight
and position of its next digit. -/
structure Reading where
  text : List Char
  code : Nat
  place : Nat
  bias : Nat
  value : Nat
  weight : Nat
  position : Nat

/-- Inserts the character that a whole number stands for. -/
def Reading.insert? (r : Reading) : Option Reading :=
  let places := r.text.length + 1
  let code := r.code + r.value / places
  let place := r.value % places
  if code.isValidChar then
    some {
      text := r.text.insertIdx place (Char.ofNat code)
      code
      place := place + 1
      bias := adapt (r.value - r.place) places (r.place == 0)
      value := place + 1
      weight := 1
      position := 36 }
  else none

/-- Reads digits up to the end of the text, which ends with a number. -/
def read? (r : Reading) : List Char → Option (List Char)
  | [] => if r.position = 36 then some r.text else none
  | c :: cs =>
    match digitValue? c with
    | none => none
    | some d =>
      let t := threshold r.bias r.position
      let next := { r with
        value := r.value + d * r.weight
        weight := r.weight * (36 - t)
        position := r.position + 36 }
      if d < t then
        match next.insert? with
        | none => none
        | some next => read? next cs
      else read? next cs

/-- The label that letters and digits encode. Its ASCII characters end at the last hyphen; without
any there is no hyphen. -/
def decode? (cs : List Char) : Option (List Char) :=
  let digits := (cs.reverse.takeWhile (· != '-')).reverse
  let ascii := cs.take (cs.length - digits.length - 1)
  let isLone := ascii.isEmpty && digits.length < cs.length
  if isLone || ascii.any fun c => 0x80 ≤ c.toNat then none
  else read? ⟨ascii, 0x80, 0, 72, 0, 1, 36⟩ digits

end SeriesSql.Punycode
