import AuditStage.Json.Value
import AuditStage.Text.Utf8

/-! Why a JSON text is refused, and the line and column at which reading stopped. -/

namespace AuditStage.Json

/-- Why a text or a value is refused. -/
inductive Cause where
  | endInValue
  | endInList
  | endInObject
  | endInString
  | missingColon
  | missingListMark
  | missingObjectMark
  | unknownWord
  | missingValue
  | badEscape
  | badNumber
  | numberTooLarge
  | loneSurrogate
  | cutSurrogate
  | controlCharacter
  | nameNotString
  | trailingComma
  | trailingText
  | tooDeep
  | wrongType (found : Value) (wanted : String)
  | wrongLength (found : Nat) (wanted : String)
  | missingField (name : String)
  | repeatedField (name : String)
  | noAlternative (name : String)
deriving Repr, BEq

/-- The sentence that tells a reader the cause. -/
def Cause.message : Cause → String
  | .endInValue => "EOF while parsing a value"
  | .endInList => "EOF while parsing a list"
  | .endInObject => "EOF while parsing an object"
  | .endInString => "EOF while parsing a string"
  | .missingColon => "expected `:`"
  | .missingListMark => "expected `,` or `]`"
  | .missingObjectMark => "expected `,` or `\x7d`"
  | .unknownWord => "expected ident"
  | .missingValue => "expected value"
  | .badEscape => "invalid escape"
  | .badNumber => "invalid number"
  | .numberTooLarge => "number out of range"
  | .loneSurrogate => "lone leading surrogate in hex escape"
  | .cutSurrogate => "unexpected end of hex escape"
  | .controlCharacter => "control character (\\u0000-\\u001F) found while parsing a string"
  | .nameNotString => "key must be a string"
  | .trailingComma => "trailing comma"
  | .trailingText => "trailing characters"
  | .tooDeep => "recursion limit exceeded"
  | .wrongType found wanted => "invalid type: " ++ found.described ++ ", expected " ++ wanted
  | .wrongLength found wanted => "invalid length " ++ toString found ++ ", expected " ++ wanted
  | .missingField name => "missing field `" ++ name ++ "`"
  | .repeatedField name => "duplicate field `" ++ name ++ "`"
  | .noAlternative name => "data did not match any variant of untagged enum " ++ name

/-- What a reader is told was wanted where another kind of value stands. -/
def structName (name : String) : String :=
  "struct " ++ name

/-- What a reader is told was wanted where a list has too few items. -/
def structOf (name : String) (fields : Nat) : String :=
  structName name ++ " with " ++ toString fields ++ " element" ++ (if fields = 1 then "" else "s")

/-- A refusal and the point at which reading stopped. -/
structure Fault where
  cause : Cause
  /-- The text that was not read. -/
  rest : List Char
  /-- How many octets of that text the reported point still lies behind. -/
  beyond : Nat
  /-- Whether the refusal concerns a record as a whole, so that its closing bracket still counts. -/
  whole : Bool
deriving Repr, BEq

namespace Fault

/-- A refusal reported at the text read so far. -/
def here (cause : Cause) (rest : List Char) : Fault :=
  ⟨cause, rest, 0, false⟩

/-- A refusal reported at the next octet, which it counts in. -/
def next (cause : Cause) (rest : List Char) : Fault :=
  ⟨cause, rest, 1, false⟩

/-- A refusal of a record as a whole. -/
def ofRecord (cause : Cause) (rest : List Char) : Fault :=
  ⟨cause, rest, 0, true⟩

end Fault

/-- A place in a text: lines count from one, columns count octets. -/
structure Position where
  line : Nat
  column : Nat
deriving Repr, DecidableEq

/-- The place after the given octets. -/
def Position.after (seen : List Nat) : Position :=
  ⟨1 + seen.count 10, (seen.reverse.takeWhile (· != 10)).length⟩

/-- The place in a text that a refusal reports. -/
def Fault.position (text : List Char) (fault : Fault) : Position :=
  let read := Text.octetCount text - Text.octetCount fault.rest
  .after ((Text.encodeUtf8 text).take (read + fault.beyond))

/-- The sentence that tells a reader the cause and the place. -/
def Cause.messageAt (cause : Cause) (place : Position) : String :=
  cause.message ++ " at line " ++ toString place.line ++ " column " ++ toString place.column

/-- The sentence for a refusal of the given text. -/
def Fault.message (text : List Char) (fault : Fault) : String :=
  fault.cause.messageAt (fault.position text)

end AuditStage.Json
