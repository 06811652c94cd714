import AuditStage.Shell.Files

/-! Conditions on texts, numbers and files, as a shell tests them. -/

namespace AuditStage.Shell

/-- What a word of a condition is. -/
inductive Role where
  | ended
  | operand
  | unary
  | binary
  | negation
  | both
  | either
  | opening
  | closing
deriving Repr, DecidableEq

/-- The words that test one operand. -/
def unaryWords : List String :=
  ["-r", "-w", "-x", "-e", "-f", "-d", "-c", "-b", "-p", "-u", "-g", "-k", "-s", "-t", "-z", "-n",
   "-h", "-O", "-G", "-L", "-S"]

/-- The words that compare two operands. -/
def binaryWords : List String :=
  ["=", "!=", "<", ">", "-eq", "-ne", "-ge", "-gt", "-le", "-lt", "-nt", "-ot", "-ef"]

/-- The role of a word by itself. -/
def plainRole (word : String) : Role :=
  match word with
  | "!" => .negation
  | "-a" => .both
  | "-o" => .either
  | "(" => .opening
  | ")" => .closing
  | word =>
    if unaryWords.contains word then .unary
    else if binaryWords.contains word then .binary
    else .operand

/-- The role of the first of the given words. -/
def roleOf : List String → Role
  | [] => .ended
  | [word] =>
    match plainRole word with
    -- A word that would need another one behind it means itself.
    | .unary | .opening => .operand
    | role => role
  | [word, _] => plainRole word
  | word :: next :: _ =>
    match plainRole word, plainRole next with
    | .unary, .binary => .operand
    | role, _ => role

/-- Whether a test of one operand holds, or what is wrong with it. -/
def testOne (state : State) (test operand : String) : Except String Bool :=
  let entry := state.entryAt? operand
  let isDevice := state.isDevice operand
  match test with
  | "-z" => .ok (operand == "")
  | "-n" => .ok (operand != "")
  | "-e" | "-r" | "-w" | "-O" | "-G" => .ok entry.isSome
  | "-f" => .ok (match entry with
    | some (.file _) => !isDevice
    | _ => false)
  | "-d" => .ok (entry == some .directory)
  | "-c" => .ok isDevice
  | "-x" => .ok (entry == some .directory || state.isProgram operand)
  | "-s" => .ok (match entry with
    | some (.file content) => content != "" || state.isProgram operand
    | some .directory => true
    | _ => false)
  | "-h" | "-L" => .ok (match state.disk.ownEntry? (characterText operand) with
    | some (.link _) => true
    | _ => false)
  | "-t" => if (integer? operand).isSome then .ok false else .error ("Illegal number: " ++ operand)
  | _ => .ok false

/-- A comparison of numbers, by its word. -/
def comparison? (word : String) : Option (Int → Int → Bool) :=
  match word with
  | "-eq" => some (· == ·)
  | "-ne" => some (· != ·)
  | "-lt" => some fun a b => decide (a < b)
  | "-le" => some fun a b => decide (a ≤ b)
  | "-gt" => some fun a b => decide (a > b)
  | "-ge" => some fun a b => decide (a ≥ b)
  | _ => none

/-- Whether a comparison of two operands holds, or what is wrong with it. -/
def testTwo (state : State) (left test right : String) : Except String Bool :=
  match test with
  | "=" => .ok (left == right)
  | "!=" => .ok (left != right)
  | "<" => .ok (decide (left < right))
  | ">" => .ok (decide (right < left))
  | "-ef" => .ok (match state.locate left, state.locate right with
    | .ok a, .ok b => a == b && (state.disk.entryAt? a).isSome
    | _, _ => false)
  -- All that a script makes is as old as the rest of what it makes.
  | "-nt" | "-ot" => .ok false
  | test =>
    match comparison? test, integer? left, integer? right with
    | some compare, some m, some n => .ok (compare m n)
    | _, none, _ => .error ("Illegal number: " ++ left)
    | _, _, _ => .error ("Illegal number: " ++ right)

/-- Whether a condition holds, and the words from the last one that it looked at. -/
abbrev Verdict := Except String (Bool × List String)

mutual

/-- Reads a condition one part of which has to hold; the fuel bounds the calls. -/
def eitherHolds (state : State) : Nat → Role → List String → Verdict
  | 0, _, _ => .error "too many arguments"
  | fuel + 1, role, words => do
    let (truth, words) ← bothHold state fuel role words
    if roleOf words.tail = .either then
      let rest := words.drop 2
      let (other, words) ← eitherHolds state fuel (roleOf rest) rest
      return (truth || other, words)
    else return (truth, words)

/-- Reads a condition all parts of which have to hold. -/
def bothHold (state : State) : Nat → Role → List String → Verdict
  | 0, _, _ => .error "too many arguments"
  | fuel + 1, role, words => do
    let (truth, words) ← maybeNegated state fuel role words
    if roleOf words.tail = .both then
      let rest := words.drop 2
      let (other, words) ← bothHold state fuel (roleOf rest) rest
      return (truth && other, words)
    else return (truth, words)

/-- Reads a condition that may be negated. -/
def maybeNegated (state : State) : Nat → Role → List String → Verdict
  | 0, _, _ => .error "too many arguments"
  | fuel + 1, role, words =>
    if role = .negation then do
      let next := roleOf words.tail
      let words := if next = .ended then words else words.tail
      let (truth, words) ← maybeNegated state fuel next words
      return (!truth, words)
    else primary state fuel role words

/-- Reads a condition in parentheses, a test or a comparison. -/
def primary (state : State) : Nat → Role → List String → Verdict
  | 0, _, _ => .error "too many arguments"
  | fuel + 1, role, words =>
    match role, words with
    | .ended, words => .ok (false, words)
    | .opening, _ :: inside =>
      if roleOf inside = .closing then .ok (false, inside)
      else do
        let (truth, words) ← eitherHolds state fuel (roleOf inside) inside
        if roleOf words.tail = .closing then return (truth, words.tail)
        else throw "closing paren expected"
    | .unary, test :: operand :: rest => do
      return (← testOne state test operand, operand :: rest)
    | .unary, test :: [] => .error (test ++ ": argument expected")
    | _, left :: test :: rest =>
      if roleOf (test :: rest) = .binary then
        match rest with
        | [] => .error (test ++ ": argument expected")
        | right :: more => do return (← testTwo state left test right, right :: more)
      else .ok (left != "", left :: test :: rest)
    | _, [word] => .ok (word != "", [word])
    | _, [] => .ok (false, [])

end

/-- Whether a condition on words holds or, if it is negated, does not, or what is wrong with it.
Several negations in front count as one. -/
def condition (state : State) (negated : Bool) (words : List String) : Except String Bool :=
  let whole := fun (role : Role) (words : List String) => do
    match ← eitherHolds state (8 * words.length + 8) role words with
    | (_, word :: _ :: _) =>
      throw (if word = "" then "unexpected operator" else word ++ ": unexpected operator")
    | (truth, _) => pure (truth != negated)
  match words with
  | [] => .ok false
  | [a, test, b] =>
    -- Three words are a comparison whenever they can be one.
    if plainRole test = .binary then whole .operand words
    else if a = "(" && b = ")" then whole (roleOf [test]) [test]
    else if a = "!" then condition state true [test, b]
    else whole (roleOf words) words
  | [a, b, c, d] =>
    if a = "(" && d = ")" then whole (roleOf [b, c]) [b, c]
    else if a = "!" then condition state true [b, c, d]
    else whole (roleOf words) words
  | words => whole (roleOf words) words

end AuditStage.Shell
