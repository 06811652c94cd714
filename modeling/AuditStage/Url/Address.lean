import AuditStage.Text.Basic
import AuditStage.Url.Percent

/-! Addresses in place of a host name: four numbers, or eight groups between brackets. -/

namespace AuditStage.Url

/-- A list of at most four numbers as one address; the last number fills the places left. -/
def joinFour : Nat → List Nat → Option Nat
  | _, [] => none
  | places, [last] => if last < Nat.pow 256 places then some last else none
  | places, number :: numbers =>
    if 255 < number then none
    else (joinFour (places - 1) numbers).map (number * Nat.pow 256 (places - 1) + ·)

/-- A number in base eight, ten or sixteen, as its first characters tell. -/
def readBased (cs : List Char) : Option Nat :=
  let (base, digits) :=
    match cs with
    | '0' :: 'x' :: rest | '0' :: 'X' :: rest => (16, rest)
    | '0' :: d :: rest => (8, d :: rest)
    | cs => (10, cs)
  digits.foldl (fun value c => do
    let value ← value
    let digit ← hexDigit? c
    if digit < base then some (value * base + digit) else none) (some 0)

/-- The parts of a host between its dots, without an empty one at the end. -/
def dottedParts (host : List Char) : List (List Char) :=
  let parts := host.splitOn '.'
  if 1 < parts.length && parts.getLast? == some [] then parts.dropLast else parts

/-- Whether a host has to be an address because its last part is a number. -/
def endsInNumber (host : List Char) : Bool :=
  match (dottedParts host).getLast? with
  | none | some [] => false
  | some last => last.all Char.isDigit || (readBased last).isSome

/-- The four numbers of an address, parted by dots. -/
def dottedText (address : Nat) : String :=
  ".".intercalate ([3, 2, 1, 0].map fun place => toString (address / Nat.pow 256 place % 256))

/-- An address of the fourth version in its plain form. -/
def parseFour (host : List Char) : Option String := do
  let parts := dottedParts host
  if 4 < parts.length || parts.any (·.isEmpty) then none
  else
    let numbers ← parts.mapM readBased
    let address ← joinFour 4 numbers
    some (dottedText address)

/-- One group of at most four hexadecimal digits. -/
def readGroup (cs : List Char) : Option Nat :=
  if cs.isEmpty || 4 < cs.length then none
  else cs.foldl (fun value c => do
    let value ← value
    let digit ← hexDigit? c
    some (value * 16 + digit)) (some 0)

/-- One of the four decimal numbers at the end of an address. -/
def readPlainNumber (cs : List Char) : Option Nat :=
  if cs.isEmpty || !cs.all Char.isDigit || (1 < cs.length && cs.head? == some '0') then none
  else
    match (String.ofList cs).toNat? with
    | some value => if value ≤ 255 then some value else none
    | none => none

/-- The groups of one side of an address, where the last one may be an address of four numbers. -/
def readGroups (last : Bool) (cs : List Char) : Option (List Nat) :=
  if cs.isEmpty then some []
  else do
    let parts := cs.splitOn ':'
    let groups ← parts.dropLast.mapM readGroup
    let final := parts.getLastD []
    if last && final.contains '.' then
      match (final.splitOn '.').mapM readPlainNumber with
      | some [a, b, c, d] => some (groups ++ [a * 256 + b, c * 256 + d])
      | _ => none
    else
      let group ← readGroup final
      some (groups ++ [group])

/-- The text parts before and after a doubled colon. -/
def splitGap : List Char → Option (List Char × List Char)
  | ':' :: ':' :: rest => some ([], rest)
  | c :: rest => (splitGap rest).map fun parts => (c :: parts.1, parts.2)
  | [] => none

/-- The eight groups of an address of the sixth version. -/
def parseGroups (host : List Char) : Option (List Nat) := do
  match splitGap host with
  | none =>
    let groups ← readGroups true host
    if groups.length = 8 then some groups else none
  | some (before, after) =>
    let front ← readGroups false before
    let back ← readGroups true after
    -- The gap stands for one group of zeros at least.
    if 8 ≤ front.length + back.length then none
    else some (front ++ List.replicate (8 - front.length - back.length) 0 ++ back)

/-- The length of the run of zeros at the front. -/
def zeroRun (groups : List Nat) : Nat :=
  (groups.takeWhile (· == 0)).length

/-- The groups in their plain form: the longest run of zeros becomes a gap. -/
def groupsText (groups : List Nat) : String :=
  let write := fun (part : List Nat) => ":".intercalate (part.map fun group =>
    String.ofList (Nat.toDigits 16 group))
  let runs := (List.range groups.length).map fun start => zeroRun (groups.drop start)
  let longest := runs.foldl max 0
  if longest < 2 then write groups
  else
    let start := (runs.takeWhile (· != longest)).length
    write (groups.take start) ++ "::" ++ write (groups.drop (start + longest))

end AuditStage.Url
