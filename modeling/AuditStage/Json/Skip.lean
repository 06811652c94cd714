import AuditStage.Json.Leaf

/-! Passing over a JSON value whose content is of no concern: its form alone is checked. -/

namespace AuditStage.Json

/-- Passes over what follows a backslash and says how many characters it took. -/
def passEscape : List Char → Except Fault Nat
  | [] => .error (.here .endInString [])
  | 'u' :: digits => do
    -- Halves of surrogate pairs are not told apart from other units here.
    let _ ← readUnit digits
    .ok 5
  | c :: cs =>
    match escapedLetter? c with
    | some _ => .ok 1
    | none => .error (.next .badEscape (c :: cs))

/-- Passes over a string up to its closing quote, of which an escape may be partly passed. -/
def passLetters : Nat → List Char → Except Fault (List Char)
  | _, [] => .error (.here .endInString [])
  | passing + 1, _ :: cs => passLetters passing cs
  | 0, c :: cs =>
    if c = '"' then .ok cs
    else if c = '\\' then
      match passEscape cs with
      | .error fault => .error fault
      | .ok spelled => passLetters spelled cs
    else if c.toNat < 0x20 then .error (.here .controlCharacter (c :: cs))
    else passLetters 0 cs

/-- Passes over an exponent after its letter. -/
def passExponent (cs : List Char) : Except Fault (List Char) :=
  let cs :=
    match cs with
    | '+' :: rest | '-' :: rest => rest
    | rest => rest
  match cs with
  | [] => .error (.here .badNumber [])
  | c :: rest =>
    if isDigit c then .ok (rest.dropWhile isDigit) else .error (.next .badNumber (c :: rest))

/-- Passes over a number after its sign. -/
def passNumber : List Char → Except Fault (List Char)
  | [] => .error (.here .badNumber [])
  | c :: cs =>
    if c = '0' && (cs.takeWhile isDigit).length ≠ 0 then .error (.next .badNumber cs)
    else if !isDigit c then .error (.next .badNumber (c :: cs))
    else
      match cs.dropWhile isDigit with
      | '.' :: rest =>
        if (rest.takeWhile isDigit).isEmpty then .error (.next .badNumber rest)
        else
          match rest.dropWhile isDigit with
          | 'e' :: rest | 'E' :: rest => passExponent rest
          | rest => .ok rest
      | 'e' :: rest | 'E' :: rest => passExponent rest
      | rest => .ok rest

/-- Passes over a value that holds no other value, given its first character. -/
def passScalar (c : Char) (cs : List Char) : Except Fault (List Char) :=
  match c with
  | 'n' => (readWord ['u', 'l', 'l'] cs).map Prod.snd
  | 't' => (readWord ['r', 'u', 'e'] cs).map Prod.snd
  | 'f' => (readWord ['a', 'l', 's', 'e'] cs).map Prod.snd
  | '"' => passLetters 0 cs
  | '-' => passNumber cs
  | c => if isDigit c then passNumber (c :: cs) else .error (.next .missingValue (c :: cs))

mutual

/-- Passes over a value; the fuel bounds the calls. -/
def passValueFrom : Nat → List Char → Except Fault (List Char)
  | 0, _ => .error (.here .endInValue [])
  | fuel + 1, cs =>
    match skipGap cs with
    | [] => .error (.here .endInValue [])
    | c :: rest =>
      if c = '[' then
        match skipGap rest with
        | [] => .error (.here .endInList [])
        | d :: rest => if d = ']' then .ok rest else passItemsFrom fuel (d :: rest)
      else if c = '\x7b' then
        match skipGap rest with
        | [] => .error (.here .endInObject [])
        | d :: rest => if d = '\x7d' then .ok rest else passMembersFrom fuel (d :: rest)
      else passScalar c rest

/-- Passes over the items of a list, of which at least one follows. -/
def passItemsFrom : Nat → List Char → Except Fault (List Char)
  | 0, _ => .error (.here .endInList [])
  | fuel + 1, cs =>
    match passValueFrom fuel cs with
    | .error fault => .error fault
    | .ok rest =>
      match skipGap rest with
      | [] => .error (.here .endInList [])
      | c :: rest =>
        if c = ']' then .ok rest
        else if c = ',' then passItemsFrom fuel rest
        else .error (.next .missingListMark (c :: rest))

/-- Passes over the members of an object, of which at least one follows. -/
def passMembersFrom : Nat → List Char → Except Fault (List Char)
  | 0, _ => .error (.here .endInObject [])
  | fuel + 1, cs =>
    match skipGap cs with
    | [] => .error (.here .endInObject [])
    | c :: rest =>
      if c ≠ '"' then .error (.next .nameNotString (c :: rest))
      else
        match passLetters 0 rest with
        | .error fault => .error fault
        | .ok rest =>
          match skipGap rest with
          | [] => .error (.here .endInObject [])
          | c :: rest =>
            if c ≠ ':' then .error (.next .missingColon (c :: rest))
            else
              match passValueFrom fuel rest with
              | .error fault => .error fault
              | .ok rest =>
                match skipGap rest with
                | [] => .error (.here .endInObject [])
                | c :: rest =>
                  if c = '\x7d' then .ok rest
                  else if c = ',' then passMembersFrom fuel rest
                  else .error (.next .missingObjectMark (c :: rest))

end

/-- Passes over a value at the front of a text. -/
def passValue (cs : List Char) : Except Fault (List Char) :=
  passValueFrom (2 * cs.length + 2) cs

end AuditStage.Json
