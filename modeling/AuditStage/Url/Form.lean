import AuditStage.Text.Basic
import AuditStage.Url.Percent

/-! Named texts in a query, as a form sends them. -/

namespace AuditStage.Url

/-- Whether a character stands for itself in a form: ASCII letters, digits and four marks. -/
def isFormPlain (c : Char) : Bool :=
  c.isAlphanum || c == '*' || c == '-' || c == '.' || c == '_'

/-- A text as a form writes it: a plus sign for a space, and octets for all that is not plain. -/
def encodeForm (text : String) : List Char :=
  text.toList.flatMap fun c =>
    if c = ' ' then ['+'] else percentChar (fun c => !isFormPlain c) c

/-- The text that a form's writing stands for. -/
def decodeForm (cs : List Char) : String :=
  -- Plus signs are taken first, so that an escaped one remains a plus sign.
  let spaced := cs.map fun c => if c = '+' then ' ' else c
  String.ofList (Text.decodeUtf8Lossy (percentDecode spaced))

/-- A name and a text with an equals sign between them. -/
def encodePair (pair : String × String) : List Char :=
  encodeForm pair.1 ++ '=' :: encodeForm pair.2

/-- Pairs behind a query that is there already, with an ampersand between all of them. -/
def appendPairs (query : List Char) (pairs : List (String × String)) : List Char :=
  pairs.foldl (fun query pair =>
    query ++ (if query.isEmpty then [] else ['&']) ++ encodePair pair) query

/-- The pair that one part of a query stands for; without an equals sign the text is empty. -/
def decodePair (part : List Char) : String × String :=
  match Text.splitFirst '=' part with
  | some (name, value) => (decodeForm name, decodeForm value)
  | none => (decodeForm part, "")

/-- The pairs that a query stands for; empty parts stand for nothing. -/
def decodePairs (query : List Char) : List (String × String) :=
  ((query.splitOn '&').filter (· != [])).map decodePair

end AuditStage.Url
