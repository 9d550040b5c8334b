import SeriesSql.Encoding.Punycode
import SeriesSql.Text.Compatibility
import SeriesSql.Text.Composition
import SeriesSql.Text.Direction
import SeriesSql.Text.Joining
import SeriesSql.Text.Mark

/-!
# Domain names

A domain name may be written in any script and is put into ASCII label by label. First the name
takes its one form: characters that are ignored are left out, forms of characters are replaced by
what they stand for with their case folded, and marks are composed with their letters. Then a label
with characters above ASCII is encoded. A label that is encoded already has to be the encoding of a
label in its one form.
-/

namespace SeriesSql.Url.Domain

/-- The characters that are left out of a name: the soft hyphen, fillers, format characters that do
not show, and selectors of a variant. -/
def ignoredRows : List String :=
  ["AD 34F 115F-1160 17B4-17B5 180B-180F 200B 2060-2064 206A-206F 3164 FE00-FE0F FEFF FFA0",
    "1BCA0-1BCA3 1D173-1D17A E0100-E01EF"]

/-- The printable characters that no name may have. -/
def refusedRows : List String :=
  ["2024-2026 2488-249B 2FF0-2FFF 31EF 33C2 33C7 33D8 FE12 FE19 FE30 FE52 FFFC-FFFD 1F100"]

def ignoredRanges : Array (Nat × Nat) :=
  (ignoredRows.flatMap Text.CodeTable.ranges).toArray

def refusedRanges : Array (Nat × Nat) :=
  (refusedRows.flatMap Text.CodeTable.ranges).toArray

def isIgnored (c : Char) : Bool :=
  ignoredRanges.any (Text.CodeTable.has c.toNat)

/-- A character above ASCII that no name may have. Of the unprintable ones the joiners may stand in
some places. -/
def isRefused (c : Char) : Bool :=
  let isJoiner := c == Text.Joining.separator || c == Text.Joining.joiner
  0x80 ≤ c.toNat && !isJoiner &&
    (Text.isUnprintable c || refusedRanges.any (Text.CodeTable.has c.toNat))

/-- A character of East Asian writing that ends a label as a full stop does. -/
def isFullStop (c : Char) : Bool :=
  "\u3002\uff0e\uff61".toList.contains c

def normalChars (c : Char) : List Char :=
  if isIgnored c then [] else if isFullStop c then ['.'] else Text.plain c

def normalize (cs : List Char) : List Char :=
  Text.Composition.normalize (cs.flatMap normalChars)

def isAscii (cs : List Char) : Bool :=
  cs.all fun c => c.toNat < 0x80

/-- Whether a label may stand in a name: it has only characters that may, does not start with a
mark, and has joiners only where they may stand. -/
def isWellFormed (label : List Char) : Bool :=
  !label.any isRefused && !label.head?.any Text.isMark && Text.Joining.fit [] label

/-- The text after the sign that starts an encoded label. -/
def encoded? : List Char → Option (List Char)
  | 'x' :: 'n' :: '-' :: '-' :: cs => some cs
  | _ => none

/-- The label that a text encodes, if it needs to be encoded and is in its one form. -/
def decode? (cs : List Char) : Option (List Char) :=
  (Punycode.decode? cs).filter fun label =>
    !isAscii label && isWellFormed label && normalize label == label

def label? (cs : List Char) : Option (List Char) :=
  match encoded? cs with
  | some cs => decode? cs
  | none => if isWellFormed cs then some cs else none

def toAscii (label : List Char) : List Char :=
  if isAscii label then label else "xn--".toList ++ Punycode.encode label

/-- Whether the directions of the labels fit, if any label is written from right to left. -/
def fitsDirection (labels : List (List Char)) : Bool :=
  let directions := labels.map (·.map Text.Direction.ofChar)
  !directions.any (·.any Text.Direction.isRight) || directions.all Text.Direction.fit

def toAscii? (cs : List Char) : Option (List Char) := do
  let labels ← ((normalize cs).splitOn '.').mapM label?
  if fitsDirection labels then some (['.'].intercalate (labels.map toAscii)) else none

end SeriesSql.Url.Domain
