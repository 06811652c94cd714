/-! Patterns of a shell: stars, question marks and sets of characters. -/

namespace AuditStage.Shell

/-- A part of a pattern. -/
inductive Atom where
  | exactly (c : Char)
  | any
  /-- Any number of characters. -/
  | many
  /-- A character between the ends of one of the ranges or of one of the classes, or none such. -/
  | set (negated : Bool) (ranges : List (Char × Char)) (classes : List String)
deriving Repr, DecidableEq

/-- A pattern, part by part. -/
abbrev Pattern := List Atom

/-- Whether a character is an ASCII punctuation character. -/
def isPunctuation (c : Char) : Bool :=
  '!' ≤ c && c ≤ '~' && !c.isAlphanum

/-- Whether a character belongs to a class that patterns know by name. -/
def isInClass (c : Char) : String → Bool
  | "alnum" => c.isAlphanum
  | "alpha" => c.isAlpha
  | "blank" => c == ' ' || c == '\t'
  | "cntrl" => c < ' ' || c == '\x7f'
  | "digit" => c.isDigit
  | "graph" => '!' ≤ c && c ≤ '~'
  | "lower" => c.isLower
  | "print" => ' ' ≤ c && c ≤ '~'
  | "punct" => isPunctuation c
  | "space" => c == ' ' || ('\t' ≤ c && c ≤ '\r')
  | "upper" => c.isUpper
  | "xdigit" => c.isDigit || ('a' ≤ c && c ≤ 'f') || ('A' ≤ c && c ≤ 'F')
  | _ => false

/-- Whether an atom stands for a character. -/
def Atom.accepts : Atom → Char → Bool
  | .exactly wanted, c => wanted == c
  | .any, _ | .many, _ => true
  | .set negated ranges classes, c =>
    (ranges.any (fun (low, high) => low ≤ c && c ≤ high) || classes.any (isInClass c)) != negated

/-- What is left of a text behind its front, for every length of the front. -/
def suffixes : List Char → List (List Char)
  | [] => [[]]
  | c :: cs => (c :: cs) :: suffixes cs

/-- Whether a pattern fits a whole text. -/
def Pattern.fits : Pattern → List Char → Bool
  | [], cs => cs.isEmpty
  | .many :: pattern, cs => (suffixes cs).any fun rest => fits pattern rest
  | _ :: _, [] => false
  | atom :: pattern, c :: cs => atom.accepts c && fits pattern cs

/-- A character of a text that may be a pattern, and whether it only means itself. -/
abbrev PatternChar := Char × Bool

/-- The characters of a class's name up to its end. -/
def className? : List PatternChar → Option (String × List PatternChar)
  | (':', false) :: (']', false) :: rest => some ("", rest)
  | (c, _) :: rest =>
    if c.isAlpha then
      (className? rest).map fun (name, rest) => (String.singleton c ++ name, rest)
    else none
  | [] => none

/-- The members of a set up to its end; a bracket that comes first is a member. -/
def readMembers (first : Bool) (cs : List PatternChar) :
    Option (List (Char × Char) × List String × List PatternChar) :=
  match cs with
  | [] => none
  | (']', false) :: rest =>
    if first then (readMembers false rest).map fun (ranges, more) => ((']', ']') :: ranges, more)
    else some ([], [], rest)
  | ('[', false) :: (':', false) :: rest =>
    match className? rest with
    | some (name, after) =>
      if after.length < rest.length then
        (readMembers false after).map fun (ranges, classes, more) => (ranges, name :: classes, more)
      else none
    | none =>
      (readMembers false ((':', false) :: rest)).map fun (ranges, more) =>
        (('[', '[') :: ranges, more)
  | (low, _) :: ('-', false) :: (high, quoted) :: rest =>
    if high = ']' && !quoted then
      (readMembers false ((high, quoted) :: rest)).map fun (ranges, more) =>
        ((low, low) :: ('-', '-') :: ranges, more)
    else (readMembers false rest).map fun (ranges, more) => ((low, high) :: ranges, more)
  | (c, _) :: rest => (readMembers false rest).map fun (ranges, more) => ((c, c) :: ranges, more)
  termination_by cs.length

/-- Reads a set behind its bracket. -/
def readSet (cs : List PatternChar) : Option (Atom × List PatternChar) :=
  let (negated, cs) :=
    match cs with
    | ('!', false) :: rest => (true, rest)
    | cs => (false, cs)
  (readMembers true cs).map fun (ranges, classes, rest) => (.set negated ranges classes, rest)

/-- Reads a pattern; a bracket that nothing closes means itself. -/
def Pattern.parse (cs : List PatternChar) : Pattern :=
  match cs with
  | [] => []
  | (c, true) :: rest => .exactly c :: parse rest
  | ('*', false) :: rest => .many :: parse rest
  | ('?', false) :: rest => .any :: parse rest
  | ('\\', false) :: (c, _) :: rest => .exactly c :: parse rest
  | ('[', false) :: rest =>
    match readSet rest with
    | some (atom, after) =>
      if after.length < rest.length then atom :: parse after else .exactly '[' :: parse rest
    | none => .exactly '[' :: parse rest
  | (c, false) :: rest => .exactly c :: parse rest
  termination_by cs.length

/-- Whether a pattern has parts that do not only mean themselves. -/
def Pattern.isOpen (pattern : Pattern) : Bool :=
  pattern.any fun atom =>
    match atom with
    | .exactly _ => false
    | _ => true

/-- The characters before the mark that ends a text. -/
def untilMark (cs : List Char) : List Char :=
  cs.takeWhile (· != '\x00')

/-- A text without the shortest or longest front, or end, that a pattern fits.  Each of the places
where it may be cut is judged by the characters up to the next mark; a search from the left goes no
further than the first mark. -/
def Pattern.trim (pattern : Pattern) (fromEnd longest : Bool) (cs : List Char) : List Char :=
  let places :=
    if fromEnd = longest then List.range ((untilMark cs).length + 1)
    else (List.range (cs.length + 1)).reverse
  let isFit := fun (n : Nat) => pattern.fits (untilMark (if fromEnd then cs.drop n else cs.take n))
  match places.find? isFit with
  | some n => if fromEnd then cs.take n else cs.drop n
  | none => cs

/-- Arguments without the front or end that a pattern fits, of all of them as one text. -/
def Pattern.trimArguments (pattern : Pattern) (fromEnd longest : Bool) (arguments : List String) :
    List String :=
  let trimmed := pattern.trim fromEnd longest (['\x00'].intercalate (arguments.map String.toList))
  if arguments = [] then [] else (trimmed.splitOn '\x00').map String.ofList

end AuditStage.Shell
