import SeriesSql.Url.Host

/-!
# URLs

An absolute URL is read the way browsers read it, and written in its one normal form: the scheme and
host in small letters, no default port, no dot segments, and percent signs in place of characters
that may not stand where they are.
-/

namespace SeriesSql

/-- The part of a URL between two slashes and its path. The name and password are encoded. -/
structure Authority where
  user : String
  password : String
  host : String
  port : Option Nat
deriving DecidableEq, Repr

/-- An absolute URL. A path that is `flat` has no segments. One that is `dotted` is written after a
dot segment, since its two slashes would start an authority. -/
structure Url where
  scheme : String
  authority : Option Authority
  path : String
  flat : Bool
  dotted : Bool
  query : Option String
  fragment : Option String
deriving DecidableEq, Repr

namespace Authority

def credentials (a : Authority) : String :=
  let password := if a.password = "" then "" else ":" ++ a.password
  if a.user = "" ∧ a.password = "" then "" else a.user ++ password ++ "@"

def toText (a : Authority) : String :=
  a.credentials ++ a.host ++ (a.port.map fun port => s!":{port}").getD ""

end Authority

namespace Url

/-- What stands between the scheme and the path. -/
def beforePath (url : Url) : String :=
  match url.authority with
  | some a => "//" ++ a.toText
  | none => if url.dotted then "/." else ""

def toText (url : Url) : String :=
  url.scheme ++ ":" ++ url.beforePath ++ url.path ++
    (url.query.map ("?" ++ ·)).getD "" ++ (url.fragment.map ("#" ++ ·)).getD ""

def webPorts : List (String × Option Nat) :=
  [("http", some 80), ("https", some 443), ("ws", some 80), ("wss", some 443), ("ftp", some 21),
    ("file", none)]

def isWeb (scheme : String) : Bool :=
  webPorts.any fun entry => entry.1 == scheme

def keptInFragment (c : Char) : Bool :=
  0x20 < c.toNat && c.toNat != 0x7F && !"\"<>`".toList.contains c

def keptInPath (c : Char) : Bool :=
  keptInFragment c && !"#?\x7b\x7d".toList.contains c

def keptInUser (c : Char) : Bool :=
  keptInPath c && !"/:;=@[\\]^|".toList.contains c

def keptInQuery (web : Bool) (c : Char) : Bool :=
  0x20 < c.toNat && c.toNat != 0x7F && !"\"#<>".toList.contains c && !(web && c == '\'')

def keptInFlatPath (c : Char) : Bool :=
  0x20 ≤ c.toNat && c.toNat != 0x7F

/-- The text without control characters and spaces at its ends, and without tabs and line breaks. -/
def clean (cs : List Char) : List Char :=
  let isEdge (c : Char) : Bool := c.toNat ≤ 0x20
  let inner := ((cs.dropWhile isEdge).reverse.dropWhile isEdge).reverse
  inner.filter fun c => !(c == '\t' || c == '\n' || c == '\r')

def isSchemeChar (c : Char) : Bool :=
  c.isAlphanum || c == '+' || c == '-' || c == '.'

/-- The scheme in small letters, and what follows its colon. -/
def scheme? (cs : List Char) : Option (String × List Char) :=
  match cs.span isSchemeChar with
  | (c :: scheme, ':' :: rest) =>
    if c.isAlpha then some (String.ofList ((c :: scheme).map Char.toLower), rest) else none
  | _ => none

def endsAuthority (web : Bool) (c : Char) : Bool :=
  c == '/' || c == '?' || c == '#' || (web && c == '\\')

/-- The name and password before the last at sign, and what follows it. -/
def splitCredentials (cs : List Char) : Option (List Char) × List Char :=
  match (cs.splitOn '@').reverse with
  | last :: before@(_ :: _) => (some (['@'].intercalate before.reverse), last)
  | _ => (none, cs)

/-- The host before the first colon outside of brackets, and the port after it. -/
def splitPort (inBrackets : Bool) : List Char → List Char × Option (List Char)
  | [] => ([], none)
  | c :: rest =>
    if c = ':' ∧ !inBrackets then ([], some rest)
    else
      let inside := if c = '[' then true else if c = ']' then false else inBrackets
      let (host, port) := splitPort inside rest
      (c :: host, port)

/-- The port of a text, none for the default port and for an empty text. -/
def port? (default : Option Nat) (cs : List Char) : Option (Option Nat) :=
  if cs.isEmpty then some none
  else
    ((Integer.digits? cs).filter (· < 65536)).map fun port =>
      if some port = default then none else some port

def credentialTexts (cs : List Char) : String × String :=
  let encoded := fun cs => String.ofList (Percent.encode keptInUser cs)
  match cs.span (· ≠ ':') with
  | (user, _ :: password) => (encoded user, encoded password)
  | (user, []) => (encoded user, "")

/-- The authority that a text is, and what follows its port from a backslash on. A URL of the web
has a host; without one there are no credentials and no port. -/
def authority? (scheme : String) (cs : List Char) : Option (Authority × List Char) := do
  let (credentials, rest) := splitCredentials cs
  let (hostChars, portChars) := splitPort false rest
  let (user, password) := credentialTexts (credentials.getD [])
  let needsHost := isWeb scheme || user != "" || password != "" || portChars.isSome
  if hostChars.isEmpty && needsHost then none
  else
    let host ← Host.ofText? (isWeb scheme) hostChars
    let default := (webPorts.find? (·.1 == scheme)).bind Prod.snd
    let (portChars, rest) := (portChars.getD []).span (· ≠ '\\')
    let port ← port? default portChars
    return ({ user, password, host, port }, rest)

def isSingleDot (segment : List Char) : Bool :=
  ([".", "%2e"].map String.toList).contains (segment.map Char.toLower)

def isDoubleDot (segment : List Char) : Bool :=
  (["..", ".%2e", "%2e.", "%2e%2e"].map String.toList).contains (segment.map Char.toLower)

/-- A segment that names the drive of a file: a letter with a colon or a bar. -/
def isDrive : List Char → Bool
  | [c, mark] => c.isAlpha && (mark == ':' || mark == '|')
  | _ => false

/-- The segments without the last one walked, which comes first. A drive is never left, and neither
is one that a backslash follows. -/
def leave : List (List Char) → List (List Char)
  | [] => []
  | segment :: walked =>
    if isDrive (segment.takeWhile (· ≠ '\\')) then segment :: walked else walked

/-- The text of a segment. The drive that starts the path of a file has a colon. -/
def segmentText (file : Bool) (walked : List (List Char)) (segment : List Char) : List Char :=
  if file && walked.isEmpty && isDrive segment then segment.take 1 ++ [':']
  else Percent.encode keptInPath segment

/-- Walks along the segments of a path. `walked` holds the segments so far, the last one first. -/
def walk (file : Bool) : (walked : List (List Char)) → List (List Char) → List (List Char)
  | walked, [] => walked.reverse
  | walked, segment :: rest =>
    let ended := fun (walked : List (List Char)) => if rest.isEmpty then [] :: walked else walked
    if isDoubleDot segment then walk file (ended (leave walked)) rest
    else if isSingleDot segment then walk file (ended walked) rest
    else walk file (segmentText file walked segment :: walked) rest

def segments (scheme : String) (cs : List Char) : List (List Char) :=
  let cs := if isWeb scheme then cs.map fun c => if c = '\\' then '/' else c else cs
  let rest := if cs.head? == some '/' then cs.tail else cs
  walk (scheme == "file") [] (rest.splitOn '/')

/-- The path that a text after an authority is. A slash is before each segment; that of a file
starts with one slash. -/
def segmentedPath (scheme : String) (cs : List Char) : List Char :=
  if cs.isEmpty && !isWeb scheme then []
  else
    let path := (segments scheme cs).flatMap ('/' :: ·)
    if scheme == "file" then '/' :: path.dropWhile (· == '/') else path

def pathText (scheme : String) (flat : Bool) (cs : List Char) : String :=
  String.ofList (if flat then Percent.encode keptInFlatPath cs else segmentedPath scheme cs)

/-- The text before the first of some characters, and the text from it on. -/
def splitBefore (stops : Char → Bool) (cs : List Char) : List Char × List Char :=
  cs.span (!stops ·)

def endsPath (c : Char) : Bool :=
  c == '?' || c == '#'

def ofRest (scheme : String) (authority : Option Authority) (flat : Bool) (cs : List Char) : Url :=
  let (path, rest) := splitBefore endsPath cs
  let (query, fragment) := splitBefore (· == '#') rest
  let path := pathText scheme flat path
  { scheme
    authority
    path
    flat
    dotted := authority.isNone && "//".toList.isPrefixOf path.toList
    query :=
      if query.isEmpty then none
      else some (String.ofList (Percent.encode (keptInQuery (isWeb scheme)) query.tail))
    fragment :=
      if fragment.isEmpty then none
      else some (String.ofList (Percent.encode keptInFragment fragment.tail)) }

/-- The URL whose authority starts a text. Nothing follows an authority that is an at sign alone. -/
def ofAuthority? (scheme : String) (cs : List Char) : Option Url := do
  let (authorityChars, rest) := splitBefore (endsAuthority (isWeb scheme)) cs
  if authorityChars == ['@'] && !rest.isEmpty then none
  else
    let (authority, before) ← authority? scheme authorityChars
    return ofRest scheme (some authority) false (before ++ rest)

/-- The URL of a file on a host. The file of a drive is on no host. -/
def ofHostFile (host : String) (cs : List Char) : Url :=
  let path := (splitBefore endsPath cs).1
  let host := if (segments "file" path).head?.any isDrive then "" else host
  ofRest "file" (some { user := "", password := "", host, port := none }) false cs

/-- The URL of a file. Its host may be missing, this computer is no host, and neither is a drive. -/
def ofFile? (cs : List Char) : Option Url := do
  let isSlash := fun c => c == '/' || c == '\\'
  if (cs.takeWhile isSlash).length < 2 then return ofHostFile "" cs
  else
    let (hostChars, rest) := splitBefore (endsAuthority true) (cs.drop 2)
    if hostChars.isEmpty then return ofHostFile "" rest
    else if isDrive hostChars then return ofHostFile "" (cs.drop 2)
    else
      let host ← Host.ofText? true hostChars
      return ofHostFile (if host = "localhost" then "" else host) rest

def ofText? (s : String) : Option Url := do
  let (scheme, rest) ← scheme? (clean s.toList)
  if scheme = "file" then ofFile? rest
  else if isWeb scheme then ofAuthority? scheme (rest.dropWhile fun c => c == '/' || c == '\\')
  else
    match rest with
    | '/' :: '/' :: cs => ofAuthority? scheme cs
    | '/' :: _ => return ofRest scheme none false rest
    | _ => return ofRest scheme none true rest

/-- The path without the slashes at its end. -/
def trimmedPath (url : Url) : List Char :=
  (url.path.toList.reverse.dropWhile (· == '/')).reverse

/-- The URL with the path that a text is. A path without segments does not start with a slash. -/
def withPath (url : Url) (cs : List Char) : Url :=
  let cs := if url.flat && cs.head? == some '/' then "%2F".toList ++ cs.tail else cs
  { url with path := pathText url.scheme url.flat cs }

/-- The URL whose query is a form of one field. -/
def withField (url : Url) (name value : String) : Url :=
  let field := Percent.formEncode name.toList ++ '=' :: Percent.formEncode value.toList
  { url with query := some (String.ofList field) }

end Url
end SeriesSql
