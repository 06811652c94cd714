import AuditStage.Json.Leaf

/-! Reading a JSON value of any kind from a text. -/

namespace AuditStage.Json

/-- How many brackets may be open at once. -/
def nestingLimit : Nat :=
  127

/-- Reads the first item mark of a list: whether an item follows, at the text returned. -/
def enterItem (first : Bool) (cs : List Char) : Except Fault (Bool × List Char) :=
  match skipGap cs with
  | [] => .error (.here .endInList [])
  | c :: rest =>
    if c = ']' then .ok (false, c :: rest)
    else if first then .ok (true, c :: rest)
    else if c = ',' then
      match skipGap rest with
      | [] => .error (.here .endInValue [])
      | d :: rest =>
        if d = ']' then .error (.next .trailingComma (d :: rest)) else .ok (true, d :: rest)
    else .error (.next .missingListMark (c :: rest))

/-- Reads up to the name of a member: whether one follows, at the text after its opening quote. -/
def enterMember (first : Bool) (cs : List Char) : Except Fault (Bool × List Char) :=
  match skipGap cs with
  | [] => .error (.here .endInObject [])
  | c :: rest =>
    if c = '\x7d' then .ok (false, c :: rest)
    else if first then
      if c = '"' then .ok (true, rest) else .error (.next .nameNotString (c :: rest))
    else if c = ',' then
      match skipGap rest with
      | [] => .error (.here .endInValue [])
      | d :: rest =>
        if d = '"' then .ok (true, rest)
        else if d = '\x7d' then .error (.next .trailingComma (d :: rest))
        else .error (.next .nameNotString (d :: rest))
    else .error (.next .missingObjectMark (c :: rest))

/-- Reads the colon between a name and its value. -/
def readColon (cs : List Char) : Except Fault (List Char) :=
  match skipGap cs with
  | [] => .error (.here .endInObject [])
  | c :: rest => if c = ':' then .ok rest else .error (.next .missingColon (c :: rest))

/-- Reads a value that holds no other value, given its first character. -/
def readScalar (c : Char) (cs : List Char) : Except Fault (Value × List Char) :=
  match c with
  | 'n' => do
    let (_, rest) ← readWord ['u', 'l', 'l'] cs
    .ok (.null, rest)
  | 't' => do
    let (_, rest) ← readWord ['r', 'u', 'e'] cs
    .ok (.bool true, rest)
  | 'f' => do
    let (_, rest) ← readWord ['a', 'l', 's', 'e'] cs
    .ok (.bool false, rest)
  | '"' => do
    let (text, rest) ← readString cs
    .ok (.string text, rest)
  | '-' => do
    let (number, rest) ← readNumber false cs
    .ok (.number number, rest)
  | c =>
    if isDigit c then do
      let (number, rest) ← readNumber true (c :: cs)
      .ok (.number number, rest)
    else .error (.next .missingValue (c :: cs))

mutual

/-- Reads a value; the fuel bounds the calls and the depth the brackets still allowed. -/
def readValueFrom : Nat → Nat → List Char → Except Fault (Value × List Char)
  | 0, _, _ => .error (.here .endInValue [])
  | fuel + 1, depth, cs =>
    match skipGap cs with
    | [] => .error (.here .endInValue [])
    | c :: rest =>
      if c = '[' then
        match depth with
        | 0 => .error (.next .tooDeep (c :: rest))
        | depth + 1 =>
          match readItemsFrom fuel depth true rest with
          | .error fault => .error fault
          | .ok (items, rest) => .ok (.array items, rest)
      else if c = '\x7b' then
        match depth with
        | 0 => .error (.next .tooDeep (c :: rest))
        | depth + 1 =>
          match readMembersFrom fuel depth true rest with
          | .error fault => .error fault
          | .ok (members, rest) => .ok (.object members, rest)
      else readScalar c rest

/-- Reads the items of a list up to its closing bracket. -/
def readItemsFrom : Nat → Nat → Bool → List Char → Except Fault (List Value × List Char)
  | 0, _, _, _ => .error (.here .endInList [])
  | fuel + 1, depth, first, cs =>
    match enterItem first cs with
    | .error fault => .error fault
    | .ok (false, rest) => .ok ([], rest.tail)
    | .ok (true, rest) =>
      match readValueFrom fuel depth rest with
      | .error fault => .error fault
      | .ok (item, rest) =>
        match readItemsFrom fuel depth false rest with
        | .error fault => .error fault
        | .ok (items, rest) => .ok (item :: items, rest)

/-- Reads the members of an object up to its closing bracket. -/
def readMembersFrom :
    Nat → Nat → Bool → List Char → Except Fault (List (String × Value) × List Char)
  | 0, _, _, _ => .error (.here .endInObject [])
  | fuel + 1, depth, first, cs =>
    match enterMember first cs with
    | .error fault => .error fault
    | .ok (false, rest) => .ok ([], rest.tail)
    | .ok (true, rest) =>
      match readString rest with
      | .error fault => .error fault
      | .ok (name, rest) =>
        match readColon rest with
        | .error fault => .error fault
        | .ok rest =>
          match readValueFrom fuel depth rest with
          | .error fault => .error fault
          | .ok (value, rest) =>
            match readMembersFrom fuel depth false rest with
            | .error fault => .error fault
            | .ok (members, rest) => .ok ((name, value) :: members, rest)

end

/-- Reads a value with the given number of brackets still allowed. -/
def readValue (depth : Nat) (cs : List Char) : Except Fault (Value × List Char) :=
  -- Each call reads a character or leads to one that does, so this fuel is never used up.
  readValueFrom (2 * cs.length + 2) depth cs

/-- Refuses anything but blanks after a value. -/
def readEnd (cs : List Char) : Except Fault Unit :=
  match skipGap cs with
  | [] => .ok ()
  | rest => .error (.next .trailingText rest)

/-- Reads a text that holds one value and nothing else. -/
def parse (text : List Char) : Except Fault Value := do
  let (value, rest) ← readValue nestingLimit text
  readEnd rest
  .ok value

end AuditStage.Json
