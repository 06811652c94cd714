import AuditStage.Url.Form

/-! URLs: where a request goes, and what it asks for there. -/

namespace AuditStage

/-- A URL in its parts, each of them escaped as it is written. -/
structure Url where
  scheme : String
  /-- The name that may stand before a host. -/
  user : String
  /-- The password behind that name. -/
  password : Option String
  host : Option String
  /-- The port, unless it is the one that the scheme stands for. -/
  port : Option Nat
  path : String
  query : Option String
  fragment : Option String
deriving Repr, DecidableEq

namespace Url

/-- Whether a URL names a host. -/
def hasHost (url : Url) : Bool :=
  url.host.any (!·.toList.isEmpty)

/-- Whether a request can be sent to a URL's scheme. -/
def isWeb (url : Url) : Bool :=
  url.scheme == "http" || url.scheme == "https"

/-- What a request for a URL asks the host for. -/
def target (url : Url) : String :=
  url.path ++ (url.query.map ("?" ++ ·)).getD ""

/-- The name and password as they stand before a host. -/
def login (url : Url) : String :=
  let password := (url.password.map (":" ++ ·)).getD ""
  if (url.user ++ password).isEmpty then "" else url.user ++ password ++ "@"

/-- The text of a URL. -/
def text (url : Url) : String :=
  let authority :=
    match url.host with
    -- Two slashes would announce a host, so a dot keeps them apart.
    | none => if "//".toList.isPrefixOf url.path.toList then "/." else ""
    | some host =>
      "//" ++ url.login ++ host ++ (url.port.map fun port => ":" ++ toString port).getD ""
  url.scheme ++ ":" ++ authority ++ url.target ++ (url.fragment.map ("#" ++ ·)).getD ""

/-- How many characters the text of a URL may have that is sent. -/
def lengthLimit : Nat :=
  65534

/-- Whether a URL is plain enough for a request to carry it. -/
def isSendable (url : Url) : Bool :=
  let isOdd := fun c => "\"`\x7b\x7d".toList.contains c
  url.text.length ≤ lengthLimit && !url.host.any (·.toList.any isOdd)

/-- The URL with pairs added behind its query. -/
def withPairs (url : Url) (pairs : List (String × String)) : Url :=
  let query := appendPairs (url.query.getD "").toList pairs
  { url with query := if query.isEmpty then none else some (String.ofList query) }

/-- Whether the octets that an escaped text stands for are a text in UTF-8. -/
def isReadable (escaped : String) : Bool :=
  Text.isUtf8 (percentDecode escaped.toList)

/-- The URL without a name and password that can be sent apart from it. -/
def withoutLogin (url : Url) : Url :=
  -- A name that is no text cannot be sent, and takes its password with it.
  if !isReadable url.user then url
  else if url.user.isEmpty && !url.password.any isReadable then url
  else { url with user := "", password := none }

end Url

end AuditStage
