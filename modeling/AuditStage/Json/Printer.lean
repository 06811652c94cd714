import AuditStage.Json.Value

/-! Writing JSON values, compactly on one line or spread over indented lines. -/

namespace AuditStage.Json

/-- The two lower-case hexadecimal digits of a control character. -/
def controlDigits (c : Char) : List Char :=
  let digits := Text.hexDigits c.toNat
  List.replicate (2 - digits.length) '0' ++ digits

/-- One character inside a string: quotes, backslashes and control characters are escaped. -/
def escapeChar (c : Char) : List Char :=
  if c = '"' then ['\\', '"']
  else if c = '\\' then ['\\', '\\']
  else if c = '\x08' then ['\\', 'b']
  else if c = '\x0c' then ['\\', 'f']
  else if c = '\n' then ['\\', 'n']
  else if c = '\r' then ['\\', 'r']
  else if c = '\t' then ['\\', 't']
  else if c.toNat < 0x20 then ['\\', 'u', '0', '0'] ++ controlDigits c
  else [c]

/-- A string between quotes. -/
def writeString (text : String) : List Char :=
  '"' :: text.toList.flatMap escapeChar ++ ['"']

mutual

/-- A value without any blanks. -/
def Value.compact : Value → List Char
  | .null => "null".toList
  | .bool true => "true".toList
  | .bool false => "false".toList
  | .number value => value.text.toList
  | .string text => writeString text
  | .array items => '[' :: compactItems items ++ [']']
  | .object members => '\x7b' :: compactMembers members ++ ['\x7d']

/-- The items of a list, parted by commas. -/
def compactItems : List Value → List Char
  | [] => []
  | [item] => item.compact
  | item :: items => item.compact ++ ',' :: compactItems items

/-- The members of an object, parted by commas. -/
def compactMembers : List (String × Value) → List Char
  | [] => []
  | [(name, value)] => writeString name ++ ':' :: value.compact
  | (name, value) :: members =>
    writeString name ++ ':' :: value.compact ++ ',' :: compactMembers members

end

/-- A line break and the indentation of the next line. -/
def lineBreak (depth : Nat) : List Char :=
  '\n' :: List.replicate (2 * depth) ' '

mutual

/-- A value with each item and member on a line of its own, two blanks deeper. -/
def Value.prettyAt (depth : Nat) : Value → List Char
  | .array [] => ['[', ']']
  | .array (item :: items) =>
    '[' :: prettyItems (depth + 1) (item :: items) ++ lineBreak depth ++ [']']
  | .object [] => ['\x7b', '\x7d']
  | .object (member :: members) =>
    '\x7b' :: prettyMembers (depth + 1) (member :: members) ++ lineBreak depth ++ ['\x7d']
  | .null => "null".toList
  | .bool true => "true".toList
  | .bool false => "false".toList
  | .number value => value.text.toList
  | .string text => writeString text

/-- The items of a list, each on a line. -/
def prettyItems (depth : Nat) : List Value → List Char
  | [] => []
  | [item] => lineBreak depth ++ item.prettyAt depth
  | item :: items => lineBreak depth ++ item.prettyAt depth ++ ',' :: prettyItems depth items

/-- The members of an object, each on a line. -/
def prettyMembers (depth : Nat) : List (String × Value) → List Char
  | [] => []
  | [(name, value)] => lineBreak depth ++ writeString name ++ ": ".toList ++ value.prettyAt depth
  | (name, value) :: members =>
    lineBreak depth ++ writeString name ++ ": ".toList ++ value.prettyAt depth ++
      ',' :: prettyMembers depth members

end

/-- The compact text of a value. -/
def Value.text (value : Value) : String :=
  String.ofList value.compact

/-- The indented text of a value. -/
def Value.prettyText (value : Value) : String :=
  String.ofList (value.prettyAt 0)

end AuditStage.Json
