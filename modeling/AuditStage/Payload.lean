import AuditStage.Json.Decode
import AuditStage.Json.Reader
import AuditStage.SourceMap
import AuditStage.Text.Basic

/-! Published source text: a single file, or a JSON text that holds several with their settings. -/

namespace AuditStage

/-- Why published text that looks like JSON is refused, or files that cannot stand side by side. -/
inductive Malformed where
  | notJson (cause : Json.Cause) (place : Json.Position)
  | badSettings (cause : Json.Cause)
  | sourcesNotObject
  | badEntry (path : String) (cause : Json.Cause)
  | noFiles
  /-- Two keys lead to one staged path. -/
  | sharedPath (owner key path : String)
  | described (text : String)
deriving Repr, BEq

/-- The sentence that tells a reader what is wrong. -/
def Malformed.message : Malformed → String
  | .notJson cause place => "invalid JSON: " ++ cause.messageAt place
  | .badSettings cause => "invalid settings: " ++ cause.message
  | .sourcesNotObject => "`sources` is not an object"
  | .badEntry path cause => "entry " ++ path ++ ": " ++ cause.message
  | .noFiles => "source map contains no files"
  | .sharedPath owner key path =>
    "keys " ++ owner ++ " and " ++ key ++ " both stage to " ++ path
  | .described text => text

namespace Payload

/-- The name of a single file whose contract has no name. -/
def defaultFileName : String :=
  "Contract.sol"

/-- Whether a text without outer blanks stands between braces. -/
def isBraced (text : List Char) : Bool :=
  text.head? == some '\x7b' && text.getLast? == some '\x7d'

/-- Whether a text without outer blanks stands between two pairs of braces. -/
def isDoubled (text : List Char) : Bool :=
  4 ≤ text.length && "\x7b\x7b".toList.isPrefixOf text && "\x7d\x7d".toList.isSuffixOf text

/-- A text without the outer one of two pairs of braces. -/
def unwrap (text : List Char) : List Char :=
  if isDoubled text then text.tail.dropLast else text

/-- Whether published text holds a JSON text rather than a single file. -/
def isStructured (payload : String) : Bool :=
  isBraced (Text.trim payload.toList)

/-- The file name for a single file, made from the contract's name. -/
def singleFileName (contractName : String) : String :=
  let name := Text.trimmed contractName
  if name.toList.isEmpty then defaultFileName else name ++ ".sol"

/-- The content of one published file. -/
def fileContent (value : Json.Value) : Except Json.Cause String :=
  value.toSingle "SourceFile" "content" Json.Value.toText fun listed =>
    if listed then .error (.wrongLength 0 (Json.structOf "SourceFile" 1))
    else .error (.missingField "content")

/-- The remappings that compiler settings declare; without a list there are none. -/
def declaredRemappings (value : Json.Value) : Except Json.Cause (List String) :=
  value.toSingle "CompilerSettings" "remappings" Json.Value.toTexts fun _ => .ok []

/-- The published files, each path with its content. -/
def filesOf : List (String × Json.Value) → Except Malformed (List (String × String))
  | [] => .ok []
  | (path, value) :: members =>
    match fileContent value with
    | .error cause => .error (.badEntry path cause)
    | .ok content => (filesOf members).map ((path, content) :: ·)

/-- The members that stand for files, and the remappings that go with them. -/
def entriesOf (root : List (String × Json.Value)) :
    Except Malformed (List (String × Json.Value) × List String) :=
  match Json.member? root "sources" with
  -- Without the member, the whole object maps paths to files and there are no settings.
  | none => .ok (root, [])
  | some (.object entries) =>
    match Json.member? root "settings" with
    | none => .ok (Json.collapse entries, [])
    | some settings =>
      match declaredRemappings settings with
      | .error cause => .error (.badSettings cause)
      | .ok remappings => .ok (Json.collapse entries, remappings)
  | some _ => .error .sourcesNotObject

/-- The sources that the members of a JSON object describe. -/
def ofMembers (members : List (String × Json.Value)) : Except Malformed SourceMap :=
  match entriesOf (Json.collapse members) with
  | .error error => .error error
  | .ok (entries, remappings) =>
    match filesOf entries with
    | .error error => .error error
    | .ok [] => .error .noFiles
    | .ok files => .ok ((SourceMap.ofList files).withRemappings remappings)

/-- The sources that a JSON text describes. -/
def ofJson (text : List Char) : Except Malformed SourceMap :=
  match Json.parse text with
  | .error fault => .error (.notJson fault.cause (fault.position text))
  | .ok (.object members) => ofMembers members
  -- A text between braces is an object or no value at all.
  | .ok _ => .error (.described "payload is not a JSON object")

/-- The sources that published text describes. -/
def parse (payload contractName : String) : Except Malformed SourceMap :=
  if isStructured payload then ofJson (unwrap (Text.trim payload.toList))
  else .ok (SourceMap.empty.insert (singleFileName contractName) payload)

end Payload

end AuditStage
