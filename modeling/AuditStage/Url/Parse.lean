import AuditStage.Url.Basic
import AuditStage.Url.Host
import AuditStage.Url.Path

/-! Reading a URL from a text, in the lenient way of a web browser. -/

namespace AuditStage.Url

/-- The schemes that stand before a host always, with the ports they stand for. -/
def specialSchemes : List (String × Option Nat) :=
  [("http", some 80), ("https", some 443), ("ws", some 80), ("wss", some 443), ("ftp", some 21),
   ("file", none)]

/-- The port that a scheme stands for. -/
def defaultPort? (scheme : String) : Option Nat :=
  ((specialSchemes.find? (·.1 == scheme)).map Prod.snd).join

/-- Whether a scheme stands before a host always. -/
def isSpecial (scheme : String) : Bool :=
  specialSchemes.any (·.1 == scheme)

/-- Whether a character is escaped in a query. -/
def escapedInQuery (special : Bool) (c : Char) : Bool :=
  isControl c || " \"#<>".toList.contains c || (special && c == '\x27')

/-- The text of a URL without what is ignored in it. -/
def cleaned (cs : List Char) : List Char :=
  let isOuter := fun (c : Char) => decide (c.toNat ≤ 0x20)
  let inner := ((cs.dropWhile isOuter).reverse.dropWhile isOuter).reverse
  inner.filter fun c => c != '\t' && c != '\n' && c != '\r'

/-- The scheme in lower case, and the text behind its colon. -/
def splitScheme (cs : List Char) : Option (String × List Char) :=
  match Text.splitFirst ':' cs with
  | some (c :: name, rest) =>
    if c.isAlpha && name.all fun c => c.isAlphanum || c == '+' || c == '-' || c == '.' then
      some (String.ofList ((c :: name).map Char.toLower), rest)
    else none
  | _ => none

/-- The parts of a text before and after the first of the given characters, which the second
keeps. -/
def splitAtAny (stops : Char → Bool) (cs : List Char) : List Char × List Char :=
  (cs.takeWhile (!stops ·), cs.dropWhile (!stops ·))

/-- The query and the fragment behind a path. -/
def parseTail (special : Bool) (cs : List Char) : Option String × Option String :=
  let (query, fragment) := splitAtAny (· == '#') cs
  let encode := fun escaped (part : List Char) =>
    if part.isEmpty then none else some (String.ofList (percentEncode escaped part.tail))
  (encode (escapedInQuery special) query, encode escapedInFragment fragment)

/-- A port in decimal digits; none at all stands for the scheme's own. -/
def parsePort (scheme : String) (cs : List Char) : Option (Option Nat) :=
  if cs.isEmpty then some none
  else if !cs.all Char.isDigit then none
  else
    match (String.ofList cs).toNat? with
    | some port =>
      if 65535 < port then none
      else some (if defaultPort? scheme = some port then none else some port)
    | none => none

/-- Whether a character is escaped in a name or a password. -/
def escapedInLogin (c : Char) : Bool :=
  escapedInPath c || "/:;=@[\\]^|".toList.contains c

/-- The name and the password, where an empty password is none. -/
def parseLogin (cs : List Char) : String × Option String :=
  let encode := fun part => String.ofList (percentEncode escapedInLogin part)
  match Text.splitFirst ':' cs with
  | none => (encode cs, none)
  | some (user, []) => (encode user, none)
  | some (user, password) => (encode user, some (encode password))

/-- The text before the last occurrence of a mark, if it occurs, and the text behind it. -/
def splitLast (mark : Char) (cs : List Char) : Option (List Char) × List Char :=
  let behind := (cs.reverse.takeWhile (· != mark)).reverse
  if behind.length = cs.length then (none, cs)
  else (some (cs.take (cs.length - behind.length - 1)), behind)

/-- The text up to the end of a host, which a colon ends unless it stands between brackets. -/
def splitHost (special : Bool) (bracketed : Bool) : List Char → List Char × List Char
  | [] => ([], [])
  | c :: rest =>
    if isSlash special c || c == '?' || c == '#' || (c == ':' && !bracketed) then ([], c :: rest)
    else
      let (host, rest) := splitHost special (c == '[' || (bracketed && c != ']')) rest
      (c :: host, rest)

/-- The port behind a host, and what follows it; any slash ends it. -/
def splitPort (scheme : String) : List Char → Option (Option Nat × List Char)
  | ':' :: rest =>
    let (digits, rest) := splitAtAny (fun c => isSlash true c || c == '?' || c == '#') rest
    (parsePort scheme digits).map (·, rest)
  | rest => some (none, rest)

/-- Reads what follows the slashes before a host. -/
def parseHosted (scheme : String) (cs : List Char) : Option Url := do
  let special := isSpecial scheme
  let (authority, behind) :=
    splitAtAny (fun c => isSlash special c || c == '?' || c == '#') cs
  let (login, address) := splitLast '@' authority
  let (user, password) := parseLogin (login.getD [])
  let (host, rest) := splitHost special false (address ++ behind)
  -- A host may be missing only where nothing else belongs to it.
  if host.isEmpty then
    if special || rest.head? = some ':' || !user.isEmpty || password.isSome then none
    if login = some [] && !rest.isEmpty then none
  let host ← if host.isEmpty then some "" else parseHost special host
  let (port, rest) ← splitPort scheme rest
  let (path, tail) := splitAtAny (fun c => c == '?' || c == '#') rest
  let (query, fragment) := parseTail special tail
  let path :=
    if path.isEmpty && !special then "" else parsePath special (dropSlash special path)
  some { scheme, user, password, host := some host, port, path, query, fragment }

/-- Reads what follows the scheme of a file. -/
def parseFile (cs : List Char) : Option Url := do
  let isEnd := fun (c : Char) => isSlash true c || c == '?' || c == '#'
  let slashes := (cs.takeWhile (isSlash true)).length
  let (host, rest) := if 2 ≤ slashes then splitAtAny isEnd (cs.drop 2) else ([], cs)
  -- A drive in the place of a host belongs to the path.
  let (host, rest) := if isDrive host then ([], host ++ rest) else (host, rest)
  let host ← if host.isEmpty then some "" else parseHost true host
  let host := if host = "localhost" then "" else host
  let (path, tail) := splitAtAny (fun c => c == '?' || c == '#') rest
  -- Behind the slashes of a missing host the path starts anew.
  let (path, drive) :=
    parseFilePath (if 2 ≤ slashes && host.isEmpty then path else dropSlash true path)
  let (query, fragment) := parseTail true tail
  let host := if drive then "" else host
  some { scheme := "file", user := "", password := none, host := some host, port := none, path,
         query, fragment }

/-- The URL that a text names. -/
def parse (text : String) : Option Url := do
  let (scheme, rest) ← splitScheme (cleaned text.toList)
  if scheme = "file" then parseFile rest
  else if isSpecial scheme then parseHosted scheme (rest.dropWhile (isSlash true))
  else if "//".toList.isPrefixOf rest then parseHosted scheme (rest.drop 2)
  else
    let (path, tail) := splitAtAny (fun c => c == '?' || c == '#') rest
    let (query, fragment) := parseTail false tail
    let path :=
      if path.head? = some '/' then parsePath false path.tail
      else String.ofList (percentEncode isControl path)
    some { scheme, user := "", password := none, host := none, port := none, path, query, fragment }

end AuditStage.Url
