import AuditStage.Json.Fault

/-! Reading the leaves of a JSON text: blanks, words, strings and numbers. -/

namespace AuditStage.Json

/-- The blanks that may stand between the marks of a JSON text. -/
def isGap (c : Char) : Bool :=
  c == ' ' || c == '\n' || c == '\t' || c == '\r'

/-- A text without the blanks at its front. -/
def skipGap (cs : List Char) : List Char :=
  cs.dropWhile isGap

/-- Reads the letters that complete a word. -/
def readWord : List Char → List Char → Except Fault (Unit × List Char)
  | [], cs => .ok ((), cs)
  | _ :: _, [] => .error (.here .endInValue [])
  | wanted :: word, c :: cs =>
    if c = wanted then readWord word cs else .error (.next .unknownWord (c :: cs))

/-- The value of a hexadecimal digit. -/
def hexValue? (c : Char) : Option Nat :=
  if '0' ≤ c && c ≤ '9' then some (c.toNat - '0'.toNat)
  else if 'a' ≤ c && c ≤ 'f' then some (c.toNat - 'a'.toNat + 10)
  else if 'A' ≤ c && c ≤ 'F' then some (c.toNat - 'A'.toNat + 10)
  else none

/-- Reads the four hexadecimal digits of an escaped unit. -/
def readUnit (cs : List Char) : Except Fault (Nat × List Char) :=
  -- The digits are looked for in the next four octets, so fewer octets end the string.
  if Text.octetCount (cs.take 4) < 4 then .error (.here .endInString [])
  else
    match cs with
    | a :: b :: c :: d :: rest =>
      match hexValue? a, hexValue? b, hexValue? c, hexValue? d with
      | some a, some b, some c, some d => .ok (((a * 16 + b) * 16 + c) * 16 + d, rest)
      | _, _, _, _ => .error ⟨.badEscape, cs, 4, false⟩
    | _ => .error ⟨.badEscape, cs, 4, false⟩

/-- The character that an escape of one letter stands for. -/
def escapedLetter? : Char → Option Char
  | '"' => some '"'
  | '\\' => some '\\'
  | '/' => some '/'
  | 'b' => some '\x08'
  | 'f' => some '\x0c'
  | 'n' => some '\n'
  | 'r' => some '\r'
  | 't' => some '\t'
  | _ => none

/-- Reads the second half of a surrogate pair, and joins it to the first. -/
def readLowSurrogate (high : Nat) : List Char → Except Fault Char
  | [] => .error (.here .endInString [])
  | '\\' :: cs =>
    match cs with
    | [] => .error (.here .endInString [])
    | 'u' :: digits => do
      let (low, rest) ← readUnit digits
      if low < 0xDC00 || 0xDFFF < low then .error (.here .loneSurrogate rest)
      else .ok (Char.ofNat ((high - 0xD800) * 0x400 + (low - 0xDC00) + 0x10000))
    | c :: cs => .error (.next .cutSurrogate (c :: cs))
  | c :: cs => .error (.next .cutSurrogate (c :: cs))

/-- Reads what follows a backslash: the character it stands for, and how many characters spell
it. -/
def readEscape : List Char → Except Fault (Char × Nat)
  | [] => .error (.here .endInString [])
  | 'u' :: digits => do
    let (unit, rest) ← readUnit digits
    if 0xDC00 ≤ unit && unit ≤ 0xDFFF then .error (.here .loneSurrogate rest)
    else if 0xD800 ≤ unit && unit ≤ 0xDBFF then
      let letter ← readLowSurrogate unit rest
      .ok (letter, 11)
    else .ok (Char.ofNat unit, 5)
  | c :: cs =>
    match escapedLetter? c with
    | some letter => .ok (letter, 1)
    | none => .error (.next .badEscape (c :: cs))

/-- Reads a string up to its closing quote, after the letters read so far, the last one first. -/
def readLetters (letters : List Char) : Nat → List Char → Except Fault (String × List Char)
  | _, [] => .error (.here .endInString [])
  -- The count says how many characters of an escape are yet to pass.
  | passing + 1, _ :: cs => readLetters letters passing cs
  | 0, c :: cs =>
    if c = '"' then .ok (String.ofList letters.reverse, cs)
    else if c = '\\' then
      match readEscape cs with
      | .error fault => .error fault
      | .ok (letter, spelled) => readLetters (letter :: letters) spelled cs
    else if c.toNat < 0x20 then .error (.next .controlCharacter (c :: cs))
    else readLetters (c :: letters) 0 cs

/-- Reads a string after its opening quote. -/
def readString (cs : List Char) : Except Fault (String × List Char) :=
  readLetters [] 0 cs

/-- Whether a character is one of the ten ASCII digits. -/
def isDigit (c : Char) : Bool :=
  '0' ≤ c && c ≤ '9'

/-- The value of an ASCII digit. -/
def digitValue (c : Char) : Nat :=
  c.toNat - '0'.toNat

/-- The leading digits of a number that fit in sixty-four bits, and the digits that do not. -/
def takeSignificant : Nat → List Char → Nat × List Char
  | significand, [] => (significand, [])
  | significand, c :: cs =>
    if Nat.pow 2 64 ≤ significand * 10 + digitValue c then (significand, c :: cs)
    else takeSignificant (significand * 10 + digitValue c) cs

/-- Scales a significand by a power of ten in steps that a floating point number can hold. -/
def scaleFloat : Nat → Float → Int → Option Float
  | 0, value, _ => some value
  | fuel + 1, value, exponent =>
    if exponent.natAbs ≤ 308 then
      let power := Float.ofScientific 1 false exponent.natAbs
      if 0 ≤ exponent then
        let scaled := value * power
        if scaled.isInf then none else some scaled
      else some (value / power)
    else if value == 0.0 then some value
    else if 0 ≤ exponent then none
    else scaleFloat fuel (value / Float.ofScientific 1 false 308) (exponent + 308)

/-- A floating point number from its parts, refused when it is too large. -/
def finishFloat (positive : Bool) (significand : Nat) (exponent : Int) (rest : List Char) :
    Except Fault (Number × List Char) :=
  -- Each step down divides by 10 ^ 308, so a few reach zero whatever the exponent.
  match scaleFloat 16 (Float.ofNat significand) exponent with
  | none => .error (.here .numberTooLarge rest)
  | some value => .ok (.float (if positive then value else -value), rest)

/-- The largest exponent that is read digit by digit. -/
def exponentLimit : Nat :=
  Nat.pow 2 31 - 1

/-- Reads the digits of an exponent: its value, or `none` once it passes the limit. -/
def takeExponent : Nat → List Char → Option Nat × List Char
  | value, [] => (some value, [])
  | value, c :: cs =>
    if isDigit c then
      if exponentLimit < value * 10 + digitValue c then (none, cs)
      else takeExponent (value * 10 + digitValue c) cs
    else (some value, c :: cs)

/-- An exponent kept within the range of thirty-two bits. -/
def clampExponent (exponent : Int) : Int :=
  max (-Int.pow 2 31) (min (Int.pow 2 31 - 1) exponent)

/-- Reads an exponent after its letter and finishes the number. -/
def readExponent (positive : Bool) (significand : Nat) (start : Int) (cs : List Char) :
    Except Fault (Number × List Char) :=
  let (positiveExponent, cs) :=
    match cs with
    | '+' :: rest => (true, rest)
    | '-' :: rest => (false, rest)
    | rest => (true, rest)
  match cs with
  | [] => .error (.here .endInValue [])
  | c :: rest =>
    if !isDigit c then .error (.next .badNumber (c :: rest))
    else
      match takeExponent (digitValue c) rest with
      | (some value, rest) =>
        let exponent := if positiveExponent then start + value else start - value
        finishFloat positive significand (clampExponent exponent) rest
      | (none, rest) =>
        -- Such an exponent makes the number zero or too large, whatever digits follow.
        if significand ≠ 0 && positiveExponent then .error (.here .numberTooLarge rest)
        else .ok (.float (if positive then 0.0 else -0.0), rest.dropWhile isDigit)

/-- Reads the digits after a decimal point and finishes the number. -/
def readFraction (positive : Bool) (significand : Nat) (start : Int) (cs : List Char) :
    Except Fault (Number × List Char) :=
  let digits := cs.takeWhile isDigit
  let rest := cs.dropWhile isDigit
  if digits.isEmpty then
    match rest with
    | [] => .error (.here .endInValue [])
    | _ => .error (.next .badNumber rest)
  else
    -- Digits that no longer fit are dropped; they change nothing but the last bit.
    let (significand, dropped) := takeSignificant significand digits
    let exponent := start - ((digits.length - dropped.length : Nat) : Int)
    match rest with
    | 'e' :: rest | 'E' :: rest => readExponent positive significand exponent rest
    | _ => finishFloat positive significand exponent rest

/-- An integer of the given sign, or a floating point number when sixty-four bits do not hold it. -/
def integerNumber (positive : Bool) (magnitude : Nat) : Number :=
  if positive then .integer magnitude
  else if magnitude = 0 || Nat.pow 2 63 < magnitude then .float (-(Float.ofNat magnitude))
  else .integer (-(magnitude : Int))

/-- Reads a number after its sign. -/
def readNumber (positive : Bool) : List Char → Except Fault (Number × List Char)
  | [] => .error (.here .endInValue [])
  | c :: cs =>
    if c = '0' && (cs.takeWhile isDigit).length ≠ 0 then .error (.next .badNumber cs)
    else if !isDigit c then .error (.next .badNumber (c :: cs))
    else
      let digits := c :: cs.takeWhile isDigit
      let rest := cs.dropWhile isDigit
      let (significand, dropped) := takeSignificant 0 digits
      match rest with
      | '.' :: rest => readFraction positive significand dropped.length rest
      | 'e' :: rest | 'E' :: rest => readExponent positive significand dropped.length rest
      | _ =>
        if dropped.isEmpty then .ok (integerNumber positive significand, rest)
        else finishFloat positive significand dropped.length rest

end AuditStage.Json
