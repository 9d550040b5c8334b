/-!
# Names and texts in a statement

A name is written bare when it is a letter or underscore followed by letters, digits and
underscores of ASCII; any other name stands in double quotes. A text stands in single quotes. A
quote inside is written twice.
-/

namespace SeriesSql.Token

/-- The characters with every `quote` among them written twice. -/
def doubleQuotes (quote : Char) (cs : List Char) : List Char :=
  cs.flatMap fun c => if c = quote then [c, c] else [c]

def enclose (quote : Char) (cs : List Char) : List Char :=
  quote :: doubleQuotes quote cs ++ [quote]

def isNameStart (c : Char) : Bool :=
  c.isAlpha || c == '_'

def isNamePart (c : Char) : Bool :=
  c.isAlphanum || c == '_'

def isBareName : List Char → Bool
  | [] => false
  | c :: rest => isNameStart c && rest.all isNamePart

def nameChars (cs : List Char) : List Char :=
  if isBareName cs then cs else enclose '"' cs

/-- A name in a statement. -/
def name (s : String) : String :=
  String.ofList (nameChars s.toList)

def quoted (s : String) : String :=
  String.ofList (enclose '\'' s.toList)

def names (ss : List String) : String :=
  ", ".intercalate (ss.map name)

end SeriesSql.Token
