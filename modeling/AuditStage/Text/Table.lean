import AuditStage.Text.Basic
import AuditStage.Text.Ranges
import Std.Data.HashMap

/-! Tables about characters, written down briefly as numbers in base sixteen. -/

namespace AuditStage.Text

/-- What a table tells about characters, by their code points. -/
abbrev Images := Std.HashMap Nat (List Char)

/-- The number that digits in base sixteen stand for. -/
def readNumber (digits : List Char) : Nat :=
  digits.foldl (fun n c => n * 16 + (if c.isDigit then c.toNat - 48 else c.toNat - 55)) 0

/-- The words of a table, parted by spaces and line ends. -/
def tableWords (text : String) : List (List Char) :=
  ((text.toList.map fun c => if c = '\n' then ' ' else c).splitOn ' ').filter (· != [])

/-- The ranges that a text lists: single numbers, and pairs with a dash between them. -/
def readRanges (text : String) : List (Nat × Nat) :=
  (tableWords text).map fun word =>
    match splitFirst '-' word with
    | some (first, last) => (readNumber first, readNumber last)
    | none => (readNumber word, readNumber word)

/-- The images that a list of texts gives to neighbours, the first of them at the given number. -/
def readNeighbours (first : Nat) (items : List Char) : List (Nat × List Char) :=
  (items.splitOn ',').mapIdx fun i item =>
    (first + i, (item.splitOn '.').map fun digits => Char.ofNat (readNumber digits))

/-- The images that a run of characters has, which all lie equally far from them. -/
def readRun (first step count image : Nat) : List (Nat × List Char) :=
  (List.range count).map fun i => (first + i * step, [Char.ofNat (image + i * step)])

/-- The images that one word of a table tells. -/
def readImages (word : List Char) : List (Nat × List Char) :=
  match splitFirst ':' word with
  | none => []
  | some (start, items) =>
    -- A plus sign announces a run, and a slash one of every other character.
    match splitFirst '+' start, splitFirst '/' start with
    | some (first, count), _ => readRun (readNumber first) 1 (readNumber count) (readNumber items)
    | none, some (first, count) =>
      readRun (readNumber first) 2 (readNumber count) (readNumber items)
    | none, none => readNeighbours (readNumber start) items

/-- The images that all words of a table tell. -/
def readTable (text : String) : List (Nat × List Char) :=
  (tableWords text).flatMap readImages

end AuditStage.Text
