import AuditStage.Shell.Number
import AuditStage.Shell.Script

/-! Integer expressions of a shell script. -/

namespace AuditStage.Shell

/-- A part of an integer expression. -/
inductive SumToken where
  | number (value : Int)
  | named (name : String)
  | sign (text : String)
deriving Repr, DecidableEq

/-- Why an expression has no value. -/
inductive SumFault where
  | expecting (what : String)
  | divisionByZero
  /-- The text of a variable spells no number. -/
  | noNumber (text : String)
deriving Repr, DecidableEq

/-- An integer expression; an operator is known by its sign. -/
inductive Expression where
  | number (value : Int)
  | named (name : String)
  | unary (sign : String) (operand : Expression)
  | binary (sign : String) (left right : Expression)
  | choice (condition yes no : Expression)
  /-- A variable gets a value, combined with its old one if there is a sign. -/
  | assign (name : String) (sign : Option String) (value : Expression)
  /-- What cannot be read; it is complained of once all before it has been computed. -/
  | broken (fault : SumFault)
  /-- An expression with something behind it that cannot be read. -/
  | brokenAfter (expression : Expression) (fault : SumFault)
deriving Repr, DecidableEq

/-- What is wrong with the expression of the given text, in the words that the shell has for it. -/
def SumFault.message (expression : String) : SumFault → String
  | .expecting what => "arithmetic expression: expecting " ++ what ++ ": \"" ++ expression ++ "\""
  | .divisionByZero => "arithmetic expression: division by zero: \"" ++ expression ++ "\""
  | .noNumber text => "Illegal number: " ++ text

/-- The signs between operands, weakest first. -/
def binarySigns : List (List String) :=
  [["||"], ["&&"], ["|"], ["^"], ["&"], ["==", "!="], ["<=", ">=", "<", ">"], ["<<", ">>"],
   ["+", "-"], ["*", "/", "%"]]

/-- The signs that combine the value of a variable with another, each with the sign that it uses. -/
def assigningSigns : List (String × String) :=
  ["<<", ">>", "+", "-", "*", "/", "%", "&", "^", "|"].map fun sign => (sign ++ "=", sign)

/-- The signs of more than one character, longer ones first. -/
def longSigns : List String :=
  ["<<=", ">>=", "<<", ">>", "<=", ">=", "==", "!=", "&&", "||", "+=", "-=", "*=", "/=", "%=", "&=",
   "^=", "|="]

/-- The parts of an expression; the fuel bounds their count. -/
def sumTokens : Nat → List Char → List SumToken
  | 0, _ => []
  | fuel + 1, cs =>
    match cs with
    | [] => []
    | c :: rest =>
      if c = ' ' || c = '\t' || c = '\n' then sumTokens fuel rest
      else if c.isDigit then
        match readBasedNatural cs with
        | some (n, rest) => .number (nearestWord n) :: sumTokens fuel rest
        | none => []
      else if startsName c then
        .named (String.ofList (cs.takeWhile isNameChar)) :: sumTokens fuel (cs.dropWhile isNameChar)
      else
        match longSigns.find? fun sign => sign.toList.isPrefixOf cs with
        | some sign => .sign sign :: sumTokens fuel (cs.drop sign.length)
        | none => .sign (String.singleton c) :: sumTokens fuel rest

/-- An expression read from the front of its parts, and the parts left. -/
abbrev Reading := Expression × List SumToken

/-- The end of what can be read. -/
def Reading.broken (what : String) : Reading :=
  (.broken (.expecting what), [])

mutual

/-- Reads an expression that may set a variable; the fuel bounds the calls. -/
def readAssignment : Nat → List SumToken → Reading
  | 0, _ => .broken "primary"
  | fuel + 1, tokens =>
    match tokens with
    | .named name :: .sign sign :: rest =>
      if sign = "=" then
        let (value, rest) := readAssignment fuel rest
        (.assign name none value, rest)
      else
        match assigningSigns.lookup sign with
        | some sign =>
          let (value, rest) := readAssignment fuel rest
          (.assign name (some sign) value, rest)
        | none => readChoice fuel tokens
    | tokens => readChoice fuel tokens

/-- Reads an expression that may choose between two others. -/
def readChoice : Nat → List SumToken → Reading
  | 0, _ => .broken "primary"
  | fuel + 1, tokens =>
    let (condition, rest) := readLevel fuel binarySigns tokens
    match rest with
    | .sign "?" :: rest =>
      let (yes, rest) := readAssignment fuel rest
      match rest with
      | .sign ":" :: rest =>
        let (no, rest) := readChoice fuel rest
        (.choice condition yes no, rest)
      | _ =>
        let (missing, rest) := Reading.broken "\x27:\x27"
        (.choice condition yes missing, rest)
    | rest => (condition, rest)

/-- Reads an expression whose weakest sign is of the first given kind. -/
def readLevel : Nat → List (List String) → List SumToken → Reading
  | 0, _, _ => .broken "primary"
  | fuel + 1, [], tokens => readOperand fuel tokens
  | fuel + 1, signs :: stronger, tokens =>
    let (left, rest) := readLevel fuel stronger tokens
    readRight fuel signs stronger left rest

/-- Reads what follows a left operand, with operands grouped from the left. -/
def readRight : Nat → List String → List (List String) → Expression → List SumToken → Reading
  | 0, _, _, _, _ => .broken "primary"
  | fuel + 1, signs, stronger, left, tokens =>
    match tokens with
    | .sign sign :: rest =>
      if signs.contains sign then
        let (right, rest) := readLevel fuel stronger rest
        readRight fuel signs stronger (.binary sign left right) rest
      else (left, tokens)
    | tokens => (left, tokens)

/-- Reads a number, a name, a signed operand or an expression between parentheses. -/
def readOperand : Nat → List SumToken → Reading
  | 0, _ => .broken "primary"
  | fuel + 1, tokens =>
    match tokens with
    | .number value :: rest => (.number value, rest)
    | .named name :: rest => (.named name, rest)
    | .sign "(" :: rest =>
      let (inside, rest) := readAssignment fuel rest
      match rest with
      | .sign ")" :: rest => (inside, rest)
      | _ => (.brokenAfter inside (.expecting "\x27)\x27"), [])
    | .sign sign :: rest =>
      if ["+", "-", "!", "~"].contains sign then
        let (operand, rest) := readOperand fuel rest
        (.unary sign operand, rest)
      else .broken "primary"
    | [] => .broken "primary"

end

/-- The expression that a text spells. -/
def Expression.parse (text : String) : Expression :=
  let tokens := sumTokens (text.length + 1) text.toList
  match readAssignment (32 * tokens.length + 32) tokens with
  | (expression, []) => expression
  | (expression, _ :: _) => .brokenAfter expression (.expecting "EOF")

/-- The first part of an expression that cannot be read. -/
def Expression.break? : Expression → Option SumFault
  | .number _ | .named _ => none
  | .unary _ operand => operand.break?
  | .binary _ left right => left.break?.or right.break?
  | .choice condition yes no => condition.break?.or (yes.break?.or no.break?)
  | .assign _ _ value => value.break?
  | .broken fault => some fault
  | .brokenAfter expression fault => expression.break?.or (some fault)

/-- A truth value as a number. -/
def ofTruth (truth : Bool) : Int :=
  if truth then 1 else 0

/-- What a sign between two numbers computes; division goes toward zero. -/
def applySign (sign : String) (a b : Int) : Except SumFault Int :=
  let bits := fun (combine : Nat → Nat → Nat) =>
    word64 (combine (a % Int.pow 2 64).toNat (b % Int.pow 2 64).toNat)
  match sign with
  | "+" => .ok (word64 (a + b))
  | "-" => .ok (word64 (a - b))
  | "*" => .ok (word64 (a * b))
  | "/" => if b = 0 then .error .divisionByZero else .ok (word64 (a.tdiv b))
  | "%" => if b = 0 then .error .divisionByZero else .ok (a.tmod b)
  | "==" => .ok (ofTruth (a == b))
  | "!=" => .ok (ofTruth (a != b))
  | "<" => .ok (ofTruth (decide (a < b)))
  | "<=" => .ok (ofTruth (decide (a ≤ b)))
  | ">" => .ok (ofTruth (decide (a > b)))
  | ">=" => .ok (ofTruth (decide (a ≥ b)))
  | "&" => .ok (bits Nat.land)
  | "|" => .ok (bits Nat.lor)
  | "^" => .ok (bits Nat.xor)
  -- A machine word is shifted by less than its width.
  | "<<" => .ok (word64 (a * Int.pow 2 (b % 64).toNat))
  | ">>" => .ok (a / Int.pow 2 (b % 64).toNat)
  | _ => .error (.expecting "EOF")

/-- The variables that an expression reads, and those that it has set, newest first. -/
structure Ledger where
  lookup : String → Option String
  written : List (String × Int)

/-- The number that a variable holds; one without a value holds zero. -/
def Ledger.numberOf (ledger : Ledger) (name : String) : Except SumFault Int :=
  match ledger.written.lookup name with
  | some n => .ok n
  | none =>
    let text := (ledger.lookup name).getD ""
    match readInteger readBasedNatural text.toList with
    | some (n, rest) => if rest.all isSpace && fitsWord n then .ok n else .error (.noNumber text)
    | none => if text.toList.all isSpace then .ok 0 else .error (.noNumber text)

/-- A computation that keeps the variables that it has set, also when it fails. -/
abbrev Sum := ExceptT SumFault (StateM Ledger)

/-- Goes over an expression that is only read, and not computed. -/
def Expression.skip (expression : Expression) : Sum Unit :=
  match expression.break? with
  | some fault => throw fault
  | none => pure ()

/-- The value of an expression. -/
def Expression.eval : Expression → Sum Int
  | .number value => pure value
  | .named name => do Ledger.numberOf (← get) name
  | .unary sign operand => do
    let value ← operand.eval
    match sign with
    | "-" => return word64 (-value)
    | "!" => return ofTruth (value == 0)
    | "~" => return -value - 1
    | _ => return value
  | .binary sign left right => do
    let a ← left.eval
    -- The right side of a decided choice is read, but not computed.
    if sign = "&&" && a = 0 then
      right.skip
      return 0
    else if sign = "||" && a ≠ 0 then
      right.skip
      return 1
    else
      let b ← right.eval
      if sign = "&&" || sign = "||" then return ofTruth (b != 0) else applySign sign a b
  | .choice condition yes no => do
    if (← condition.eval) ≠ 0 then
      let value ← yes.eval
      no.skip
      return value
    else
      yes.skip
      no.eval
  | .assign name sign value => do
    let b ← value.eval
    let result ←
      match sign with
      | none => pure b
      | some sign =>
        let old ← Ledger.numberOf (← get) name
        applySign sign old b
    modify fun ledger => { ledger with written := (name, result) :: ledger.written }
    return result
  | .broken fault => throw fault
  | .brokenAfter expression fault => do
    let _ ← expression.eval
    throw fault

/-- The value of the expression that a text spells, and the variables that it sets. -/
def evaluate (lookup : String → Option String) (text : String) :
    Except SumFault Int × List (String × Int) :=
  let (value, ledger) := (Expression.parse text).eval.run ⟨lookup, []⟩
  (value, ledger.written.reverse)

end AuditStage.Shell
