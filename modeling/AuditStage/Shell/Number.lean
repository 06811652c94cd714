/-! Integers as a shell spells them, and as a machine word holds them. -/

namespace AuditStage.Shell

/-- The value of one digit in any base up to thirty-six. -/
def digitValue (c : Char) : Nat :=
  if c.isDigit then c.toNat - '0'.toNat else c.toLower.toNat - 'a'.toNat + 10

/-- Whether a character is a digit in a base. -/
def isDigitIn (base : Nat) (c : Char) : Bool :=
  c.isAlphanum && digitValue c < base

/-- The number that digits spell in a base. -/
def ofDigits (base : Nat) (digits : List Char) : Nat :=
  digits.foldl (fun n c => n * base + digitValue c) 0

/-- Whether a character is white space to the system. -/
def isSpace (c : Char) : Bool :=
  c == ' ' || ('\t' ≤ c && c ≤ '\r')

/-- The number at the front in a base, and the text behind it. -/
def readNatural (base : Nat) (cs : List Char) : Option (Nat × List Char) :=
  match cs.takeWhile (isDigitIn base) with
  | [] => none
  | digits => some (ofDigits base digits, cs.dropWhile (isDigitIn base))

/-- The number at the front whose first digits tell its base, and the text behind it. -/
def readBasedNatural (cs : List Char) : Option (Nat × List Char) :=
  match cs with
  | '0' :: mark :: rest =>
    if mark = 'x' || mark = 'X' then (readNatural 16 rest).or (some (0, mark :: rest))
    else if mark = 'b' || mark = 'B' then (readNatural 2 rest).or (some (0, mark :: rest))
    else readNatural 8 cs
  | cs => readNatural 10 cs

/-- The integer at the front, behind white space and a sign, and the text behind it. -/
def readInteger (natural : List Char → Option (Nat × List Char)) (cs : List Char) :
    Option (Int × List Char) :=
  match cs.dropWhile isSpace with
  | '-' :: rest => (natural rest).map fun (n, rest) => (-n, rest)
  | '+' :: rest => (natural rest).map fun (n, rest) => ((n : Int), rest)
  | rest => (natural rest).map fun (n, rest) => ((n : Int), rest)

/-- Whether an integer fits a machine word. -/
def fitsWord (n : Int) : Bool :=
  -Int.pow 2 63 ≤ n && n < Int.pow 2 63

/-- The integer of a machine word nearest to an integer. -/
def nearestWord (n : Int) : Int :=
  if n < -Int.pow 2 63 then -Int.pow 2 63
  else if n < Int.pow 2 63 then n else Int.pow 2 63 - 1

/-- A number as a machine word with a sign holds it. -/
def word64 (n : Int) : Int :=
  Int.bmod n (Nat.pow 2 64)

/-- The integer that a whole text spells in base ten, but for white space around it. -/
def integer? (text : String) : Option Int :=
  match readInteger (readNatural 10) text.toList with
  | some (n, rest) => if rest.all isSpace && fitsWord n then some n else none
  | none => none

/-- The number without a sign that a whole text spells, if it is small enough for a count. -/
def count? (text : String) : Option Nat :=
  (integer? text).bind fun n => if 0 ≤ n && n < Int.pow 2 31 then some n.toNat else none

end AuditStage.Shell
