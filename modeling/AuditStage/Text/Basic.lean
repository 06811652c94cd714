import AuditStage.Text.Blank

/-! Cutting text: trimming blanks, splitting at a mark, and dividing it into lines and words. -/

namespace AuditStage.Text

/-- Text without its leading blanks. -/
def trimStart (cs : List Char) : List Char :=
  cs.dropWhile isBlank

/-- Text without its trailing blanks. -/
def trimEnd (cs : List Char) : List Char :=
  (cs.reverse.dropWhile isBlank).reverse

/-- Text without blanks at either end. -/
def trim (cs : List Char) : List Char :=
  trimEnd (trimStart cs)

/-- The parts before and after the first occurrence of a mark, if it occurs. -/
def splitFirst (mark : Char) : List Char → Option (List Char × List Char)
  | [] => none
  | c :: rest =>
    if c = mark then some ([], rest)
    else (splitFirst mark rest).map fun parts => (c :: parts.1, parts.2)

/-- Text without the given mark at its end, however often it stands there. -/
def dropTrailing (mark : Char) (cs : List Char) : List Char :=
  (cs.reverse.dropWhile (· == mark)).reverse

/-- A line without the carriage return that belongs to its line feed. -/
def dropReturn (line : List Char) : List Char :=
  if line.getLast? = some '\r' then line.dropLast else line

/-- The lines of a text: a line feed ends a line, and so does a carriage return just before it. -/
def lines (cs : List Char) : List (List Char) :=
  -- What follows the last line feed is a line only if it is not empty, and keeps its return.
  let parts := cs.splitOn '\n'
  let ended := parts.dropLast.map dropReturn
  match parts.getLast? with
  | none | some [] => ended
  | some last => ended ++ [last]

/-- The first run of characters that are not blank, if there is one. -/
def firstWord (cs : List Char) : Option (List Char) :=
  match (trimStart cs).takeWhile (fun c => !isBlank c) with
  | [] => none
  | word => some word

/-- Text without blanks at either end. -/
def trimmed (text : String) : String :=
  String.ofList (trim text.toList)

/-- Whether a text holds nothing but blanks. -/
def isAllBlank (text : String) : Bool :=
  text.toList.all isBlank

/-- The lines of a text. -/
def linesOf (text : String) : List String :=
  (lines text.toList).map String.ofList

/-- A text repeated. -/
def repeated (count : Nat) (text : String) : String :=
  String.join (List.replicate count text)

end AuditStage.Text
