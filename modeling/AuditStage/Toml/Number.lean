import AuditStage.Toml.Scan

/-! Numbers, dates and times in a TOML text. -/

namespace AuditStage.Toml

/-- A number, a date or a time as it is written. -/
inductive Scalar where
  | integer (value : Int)
  | float (text : String)
  | moment (text : String)
deriving Repr, DecidableEq

/-- Digits in the given class, where single low lines may stand between two of them. -/
def takeDigits (isDigit : Char → Bool) : List Char → List Char × List Char
  | '_' :: c :: rest =>
    if isDigit c then
      let (digits, rest) := takeDigits isDigit rest
      (c :: digits, rest)
    else ([], '_' :: c :: rest)
  | c :: rest =>
    if isDigit c then
      let (digits, rest) := takeDigits isDigit rest
      (c :: digits, rest)
    else ([], c :: rest)
  | [] => ([], [])

/-- Digits in the given class, at least one, of which the first has no low line before it. -/
def readDigits (isDigit : Char → Bool) (cs : List Char) : Option (List Char × List Char) :=
  if cs.head?.any isDigit then some (takeDigits isDigit cs) else none

/-- The value of digits in a base. -/
def digitsValue (base : Nat) (digits : List Char) : Nat :=
  digits.foldl (fun value c => value * base + (hexValue? c).getD 0) 0

/-- Whether a character is a digit in a base of at most ten. -/
def isDigitBelow (base : Nat) (c : Char) : Bool :=
  c.isDigit && c.toNat - '0'.toNat < base

/-- An integer, if sixty-four bits hold it. -/
def boundedInteger (value : Int) : Option Scalar :=
  if -Int.pow 2 63 ≤ value && value < Int.pow 2 63 then some (.integer value) else none

/-- Whether the sign is negative, and the text behind it. -/
def readSign : List Char → Bool × List Char
  | '-' :: rest => (true, rest)
  | '+' :: rest => (false, rest)
  | cs => (false, cs)

/-- Decimal digits without a needless zero at the front. -/
def readWhole (cs : List Char) : Option (List Char × List Char) :=
  match cs with
  | '0' :: rest => some (['0'], rest)
  | _ => readDigits Char.isDigit cs

/-- Reads an integer. -/
def readInteger (cs : List Char) : Option (Scalar × List Char) := do
  let based := fun (base : Nat) (isDigit : Char → Bool) (rest : List Char) => do
    let (digits, rest) ← readDigits isDigit rest
    let value ← boundedInteger (digitsValue base digits)
    some (value, rest)
  match cs with
  | '0' :: 'x' :: rest => based 16 (fun c => (hexValue? c).isSome) rest
  | '0' :: 'o' :: rest => based 8 (isDigitBelow 8) rest
  | '0' :: 'b' :: rest => based 2 (isDigitBelow 2) rest
  | _ =>
    let (negative, rest) := readSign cs
    let (digits, rest) ← readWhole rest
    let magnitude : Int := digitsValue 10 digits
    let value ← boundedInteger (if negative then -magnitude else magnitude)
    some (value, rest)

/-- Reads the digits behind a point, if there is one. -/
def readPlaces : List Char → Option (List Char × List Char)
  | '.' :: rest => readDigits Char.isDigit rest
  | cs => some ([], cs)

/-- Reads the exponent behind its letter, if there is one. -/
def readPower : List Char → Option (Option Int × List Char)
  | 'e' :: rest | 'E' :: rest => do
    let (negative, rest) := readSign rest
    let (digits, rest) ← readDigits Char.isDigit rest
    let magnitude : Int := digitsValue 10 digits
    some (some (if negative then -magnitude else magnitude), rest)
  | cs => some (none, cs)

/-- Whether `significand * 10 ^ exponent` is beyond the largest floating point number. -/
def isBeyondFloat (significand : Nat) (exponent : Int) : Bool :=
  -- Half a step above the largest number, everything rounds to infinity.
  let bound := Nat.pow 2 1024 - Nat.pow 2 970
  if significand = 0 then false
  else if 0 ≤ exponent then
    -- The exponent is cut where the bound is passed anyway.
    bound ≤ significand * Nat.pow 10 (min exponent.toNat 400)
  else
    let digits := (Nat.toDigits 10 significand).length
    if (digits : Int) + exponent < 300 then false
    else bound * Nat.pow 10 exponent.natAbs ≤ significand

/-- The text that has been read when the given rest is left. -/
def readText (cs rest : List Char) : String :=
  String.ofList (cs.take (cs.length - rest.length))

/-- Reads a floating point number. -/
def readFloat (cs : List Char) : Option (Scalar × List Char) := do
  let (negative, rest) := readSign cs
  if "inf".toList.isPrefixOf rest || "nan".toList.isPrefixOf rest then
    some (.float (readText cs (rest.drop 3)), rest.drop 3)
  else
    let (whole, rest) ← readWhole rest
    let (places, rest) ← readPlaces rest
    let (power, rest) ← readPower rest
    if places.isEmpty && power.isNone then none
    else
      let exponent := power.getD 0 - places.length
      -- Only a positive number is refused for its size.
      if !negative && isBeyondFloat (digitsValue 10 (whole ++ places)) exponent then none
      else some (.float (readText cs rest), rest)

/-- Reads exactly so many digits, with a value within bounds. -/
def readField (width least greatest : Nat) (cs : List Char) : Option (Nat × List Char) :=
  let digits := cs.take width
  let value := digitsValue 10 digits
  if digits.length = width && digits.all Char.isDigit && least ≤ value && value ≤ greatest then
    some (value, cs.drop width)
  else none

/-- The text behind a mark. -/
def readMark (mark : Char) : List Char → Option (List Char)
  | c :: rest => if c = mark then some rest else none
  | [] => none

/-- How many days a month has. -/
def daysIn (year month : Nat) : Nat :=
  if month = 2 then
    if year % 4 = 0 && (year % 100 ≠ 0 || year % 400 = 0) then 29 else 28
  else if [4, 6, 9, 11].contains month then 30
  else 31

/-- The text behind a date. -/
def readDate (cs : List Char) : Option (List Char) := do
  let (year, cs) ← readField 4 0 9999 cs
  let cs ← readMark '-' cs
  let (month, cs) ← readField 2 1 12 cs
  let cs ← readMark '-' cs
  let (_, cs) ← readField 2 1 (daysIn year month) cs
  some cs

/-- The text behind a time of day. -/
def readTime (cs : List Char) : Option (List Char) := do
  let (_, cs) ← readField 2 0 23 cs
  let cs ← readMark ':' cs
  let (_, cs) ← readField 2 0 59 cs
  let cs ← readMark ':' cs
  let (_, cs) ← readField 2 0 60 cs
  match cs with
  | '.' :: rest =>
    if rest.head?.any Char.isDigit then some (rest.dropWhile Char.isDigit) else none
  | cs => some cs

/-- The text behind the distance from universal time, if it is given. -/
def readOffset (cs : List Char) : Option (List Char) :=
  match cs with
  | 'Z' :: rest | 'z' :: rest => some rest
  | '+' :: rest | '-' :: rest => do
    let (_, rest) ← readField 2 0 23 rest
    let rest ← readMark ':' rest
    let (_, rest) ← readField 2 0 59 rest
    some rest
  | cs => some cs

/-- Reads a date, a time, or both. -/
def readMoment (cs : List Char) : Option (Scalar × List Char) := do
  let rest ←
    match readDate cs with
    | none => readTime cs
    | some rest =>
      match rest with
      | 'T' :: time | 't' :: time => (readTime time).bind readOffset
      | ' ' :: time =>
        -- A blank parts the date from a time only if a time follows.
        if (time.take 2).all Char.isDigit && (time.drop 2).head? = some ':' then
          (readTime time).bind readOffset
        else some rest
      | rest => some rest
  some (.moment (readText cs rest), rest)

/-- Reads a number, a date or a time. -/
def readScalar (cs : List Char) : Option (Scalar × List Char) :=
  (readMoment cs).or ((readFloat cs).or (readInteger cs))

end AuditStage.Toml
