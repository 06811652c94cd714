/-! The small parts of a TOML text: blanks, comments, line ends, strings and keys. -/

namespace AuditStage.Toml

/-- Whether a character is a blank inside a line. -/
def isGap (c : Char) : Bool :=
  c == ' ' || c == '\t'

/-- A text without the blanks at its front. -/
def skipGap (cs : List Char) : List Char :=
  cs.dropWhile isGap

/-- Whether a character may stand in a comment or a string: no control character but the tab. -/
def isPrintable (c : Char) : Bool :=
  c == '\t' || (0x20 ≤ c.toNat && c.toNat ≠ 0x7F)

/-- A text without the comment at its front, if there is one. -/
def skipComment (cs : List Char) : List Char :=
  if cs.head? = some '#' then cs.dropWhile isPrintable else cs

/-- The text behind a line end; a carriage return belongs to the line feed behind it. -/
def readLineEnd? : List Char → Option (List Char)
  | '\n' :: rest => some rest
  | '\r' :: '\n' :: rest => some rest
  | _ => none

/-- The text behind the rest of a line, on which only a comment may stand. -/
def readLineRest (cs : List Char) : Option (List Char) :=
  match skipComment (skipGap cs) with
  | [] => some []
  | rest => readLineEnd? rest

/-- A text without the blanks, comments and line ends at its front; the fuel bounds their count. -/
def skipLinesFrom : Nat → List Char → List Char
  | 0, cs => cs
  | fuel + 1, cs =>
    let rest := skipComment (skipGap cs)
    match readLineEnd? rest with
    | some rest => skipLinesFrom fuel rest
    | none => rest

/-- A text without the blanks, comments and line ends at its front. -/
def skipLines (cs : List Char) : List Char :=
  skipLinesFrom cs.length cs

/-- The value of a hexadecimal digit. -/
def hexValue? (c : Char) : Option Nat :=
  if '0' ≤ c && c ≤ '9' then some (c.toNat - '0'.toNat)
  else if 'a' ≤ c && c ≤ 'f' then some (c.toNat - 'a'.toNat + 10)
  else if 'A' ≤ c && c ≤ 'F' then some (c.toNat - 'A'.toNat + 10)
  else none

/-- The character whose number is written with the given digits, unless it is a surrogate. -/
def charOfDigits? (digits : List Char) : Option Char := do
  let values ← digits.mapM hexValue?
  let number := values.foldl (fun n digit => n * 16 + digit) 0
  if number.isValidChar then some (Char.ofNat number) else none

/-- The character that an escape stands for, and how many characters spell it. -/
def readEscape? : List Char → Option (Char × Nat)
  | 'b' :: _ => some ('\x08', 1)
  | 't' :: _ => some ('\t', 1)
  | 'n' :: _ => some ('\n', 1)
  | 'f' :: _ => some ('\x0c', 1)
  | 'r' :: _ => some ('\r', 1)
  | '"' :: _ => some ('"', 1)
  | '\\' :: _ => some ('\\', 1)
  | 'u' :: rest =>
    if rest.length < 4 then none else (charOfDigits? (rest.take 4)).map (·, 5)
  | 'U' :: rest =>
    if rest.length < 8 then none else (charOfDigits? (rest.take 8)).map (·, 9)
  | _ => none

/-- Reads a string between double quotes on one line, after its opening quote. -/
def readBasic (letters : List Char) : Nat → List Char → Option (String × List Char)
  | _, [] => none
  -- The count says how many characters of an escape are yet to pass.
  | passing + 1, _ :: cs => readBasic letters passing cs
  | 0, c :: cs =>
    if c = '"' then some (String.ofList letters.reverse, cs)
    else if c = '\\' then
      match readEscape? cs with
      | some (letter, spelled) => readBasic (letter :: letters) spelled cs
      | none => none
    else if isPrintable c then readBasic (c :: letters) 0 cs
    else none

/-- Reads a string between single quotes on one line, after its opening quote. -/
def readLiteral (cs : List Char) : Option (String × List Char) :=
  let isBody := fun c => isPrintable c && c != '\x27'
  match cs.dropWhile isBody with
  | '\x27' :: rest => some (String.ofList (cs.takeWhile isBody), rest)
  | _ => none

/-- How many copies of a quote stand at the front. -/
def quoteRun (quote : Char) (cs : List Char) : Nat :=
  (cs.takeWhile (· == quote)).length

/-- A text without the blanks and line ends at its front. -/
def dropFold : List Char → List Char
  | '\r' :: '\n' :: rest => dropFold rest
  | c :: rest => if isGap c || c == '\n' then dropFold rest else c :: rest
  | [] => []

/-- The number of blanks and line ends that an escaped line end takes with it. -/
def foldedCount (cs : List Char) : Option Nat :=
  match readLineEnd? (skipGap cs) with
  | none => none
  | some rest => some (cs.length - (dropFold rest).length)

/-- Reads a string over several lines, after its three opening quotes and the line end there. -/
def readLong (quote : Char) (letters : List Char) : Nat → List Char → Option (String × List Char)
  | _, [] => none
  | passing + 1, _ :: cs => readLong quote letters passing cs
  | 0, c :: cs =>
    if c = quote then
      let run := quoteRun quote (c :: cs)
      if run < 3 then readLong quote (c :: letters) 0 cs
      else
        -- Up to two quotes may stand directly before the closing ones.
        let inner := min (run - 3) 2
        some (String.ofList (List.replicate inner quote ++ letters).reverse, cs.drop (inner + 2))
    else if c = '\n' then readLong quote ('\n' :: letters) 0 cs
    else if c = '\r' then
      if cs.head? = some '\n' then readLong quote ('\n' :: letters) 1 cs else none
    else if c = '\\' && quote = '"' then
      match foldedCount cs with
      | some folded => readLong quote letters folded cs
      | none =>
        match readEscape? cs with
        | some (letter, spelled) => readLong quote (letter :: letters) spelled cs
        | none => none
    else if isPrintable c then readLong quote (c :: letters) 0 cs
    else none

/-- Reads a string of any form. -/
def readString (cs : List Char) : Option (String × List Char) :=
  match cs with
  | '"' :: '"' :: '"' :: rest => readLong '"' [] 0 ((readLineEnd? rest).getD rest)
  | '\x27' :: '\x27' :: '\x27' :: rest => readLong '\x27' [] 0 ((readLineEnd? rest).getD rest)
  | '"' :: rest => readBasic [] 0 rest
  | '\x27' :: rest => readLiteral rest
  | _ => none

/-- Whether a character may stand in a key without quotes. -/
def isKeyChar (c : Char) : Bool :=
  c.isAlphanum || c == '-' || c == '_'

/-- Reads one part of a key. -/
def readKeyPart (cs : List Char) : Option (String × List Char) :=
  match cs with
  | '"' :: rest => readBasic [] 0 rest
  | '\x27' :: rest => readLiteral rest
  | _ =>
    match cs.takeWhile isKeyChar with
    | [] => none
    | part => some (String.ofList part, cs.dropWhile isKeyChar)

/-- Reads the parts of a key between its dots; the fuel bounds their count. -/
def readKeyFrom : Nat → List Char → Option (List String × List Char)
  | 0, _ => none
  | fuel + 1, cs => do
    let (part, rest) ← readKeyPart (skipGap cs)
    match skipGap rest with
    | '.' :: rest =>
      let (parts, rest) ← readKeyFrom fuel rest
      some (part :: parts, rest)
    | rest => some ([part], rest)

/-- How many parts a key must not reach, and how many brackets must not be open at once. -/
def nestingBound : Nat :=
  80

/-- Reads a key with all its parts and the blanks around it. -/
def readKey (cs : List Char) : Option (List String × List Char) := do
  let (parts, rest) ← readKeyFrom (cs.length + 1) cs
  if parts.length < nestingBound then some (parts, rest) else none

end AuditStage.Toml
