import SeriesSql.Text.CodeTable
import SeriesSql.Text.Extender
import SeriesSql.Text.Unprintable

/-!
# Marks

The combining marks of Unicode 17 (the general category `M`) are the marks that extend the character
before them, and those that take a space of their own beside it.
-/

namespace SeriesSql.Text

/-- The marks that take a space of their own. -/
def spacingMarkRows : List String :=
  ["903 93B 93E-94F 982-983 9BF-9CC A03 A3E-A40 A83 ABE-ACC B02-B03 B40-B4C BBF-BCC C01-C03",
    "C41-C44 C82-C83 CBE-CC4 CF3-D03 D3F-D4C D82-D83 DD0-DDE DF2-DF3 F3E-F3F F7F 102B-103C",
    "1056-1057 1062-1064 1067-106D 1083-108C 108F 109A-109C 17B6-17C8 1923-1938 1A19-1A1A",
    "1A55-1A72 1B04 1B3E-1B41 1B82 1BA1-1BA7 1BE7-1BEE 1C24-1C35 1CE1 1CF7 A823-A827 A880-A881",
    "A8B4-A8C3 A952 A983 A9B4-A9BF AA2F-AA34 AA4D AA7B-AA7D AAEB-AAEF AAF5 ABE3-ABEA ABEC",
    "11000-11002 11082 110B0-110B8 1112C 11145-11146 11182 111B3-111BF 111CE 1122C-11233",
    "112E0-112E2 11302-11303 1133F-1134C 11362-11363 113B9-113CD 11435-11445 114B1-114C1",
    "115B0-115BE 11630-1163E 116AC-116AF 1171E-11726 1182C-11838 11931-11938 11940 11942",
    "119D1-119DF 119E4 11A39 11A57-11A58 11A97 11B61-11B67 11C2F-11C3E 11CA9-11CB4 11D8A-11D96",
    "11EF5-11EF6 11F03 11F34-11F3F 1612A-1612C 16F51-16F87"]

def spacingMarkRanges : Array (Nat × Nat) :=
  (spacingMarkRows.flatMap CodeTable.ranges).toArray

/-- A sound mark of halfwidth Katakana, which extends a character but is a letter. -/
def isSoundMark (c : Char) : Bool :=
  c == '\uff9e' || c == '\uff9f'

def isMark (c : Char) : Bool :=
  (isExtender c && !isSoundMark c && !isUnprintable c) ||
    spacingMarkRanges.any (CodeTable.has c.toNat)

end SeriesSql.Text
