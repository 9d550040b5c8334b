import SeriesSql.Text.Mark

/-!
# Quoted texts

A text in double quotes on one line: quotes, backslashes and line breaks are escaped, and so is
every character that would not show. The characters that do not show on their own are the
unprintable ones, the fillers of Hangul, which are letters without a shape, and those that extend
the one before them. The two sound marks of halfwidth Katakana extend a character too, but take a
place of their own, so they show.
-/

namespace SeriesSql.Text

/-- A letter of Hangul without a shape. -/
def isFiller (c : Char) : Bool :=
  "\u115f\u1160\u3164\uffa0".toList.contains c

def isInvisible (c : Char) : Bool :=
  isUnprintable c || isFiller c || (isExtender c && !isSoundMark c)

def quotedChar (c : Char) : List Char :=
  match c with
  | '"' => ['\\', '"']
  | '\\' => ['\\', '\\']
  | '\n' => ['\\', 'n']
  | '\r' => ['\\', 'r']
  | '\t' => ['\\', 't']
  | '\x00' => ['\\', '0']
  | c => if isInvisible c then ['\\', 'u', '\x7b'] ++ Nat.toDigits 16 c.toNat ++ ['\x7d'] else [c]

def quoted (s : String) : String :=
  String.ofList ('"' :: s.toList.flatMap quotedChar ++ ['"'])

end SeriesSql.Text
