import AuditStage.Shell.Script

/-! Reading a shell script character by character: what has been read, and what is wrong with it. -/

namespace AuditStage.Shell

/-- A word, an operator or a line end of a script. -/
inductive Token where
  | ended
  | newline
  | redirect (stream : Option Nat) (sign : String)
  | word (pieces : List Piece)
  | mark (text : String)
  /-- A word that has a meaning of its own where it stands. -/
  | keyword (text : String)

/-- The text of a token that stands for a pattern; an operator stands for the word before it. -/
def Token.pieces (before : List Piece) : Token → List Piece
  | .word pieces => pieces
  | .keyword text => [.text text false]
  | _ => before

/-- What a complaint calls a token. -/
def Token.description : Token → String
  | .ended => "end of file"
  | .newline => "newline"
  | .redirect _ _ => "redirection"
  | .word _ => "word"
  | .mark text | .keyword text => "\"" ++ text ++ "\""

/-- Why a text is no script. -/
inductive SyntaxFault where
  | unexpected (found : Token) (wanted : Option Token)
  | openQuotation
  | openBrace
  | openSum
  | openBackquote
  | badLoopVariable
  | badFunctionName
  | badStream
  /-- The steps granted to the reader have run out. -/
  | endless

/-- What is wrong with a text, in the words that the shell has for it. -/
def SyntaxFault.message : SyntaxFault → String
  | .unexpected found none => found.description ++ " unexpected"
  | .unexpected found (some wanted) =>
    found.description ++ " unexpected (expecting " ++ wanted.description ++ ")"
  | .openQuotation => "Unterminated quoted string"
  | .openBrace => "Missing \x27\x7d\x27"
  | .openSum => "Missing \x27))\x27"
  | .openBackquote => "EOF in backquote substitution"
  | .badLoopVariable => "Bad for loop variable"
  | .badFunctionName => "Bad function name"
  | .badStream => "Bad fd number"
  | .endless => "nested too deeply"

/-- A text inside a script that is still to come, for a stream to read. -/
structure Due where
  /-- The line that ends the text. -/
  mark : String
  /-- Whether nothing in the text is expanded. -/
  literal : Bool
  /-- Whether tabs at the start of lines are left out. -/
  tabless : Bool
  number : Nat

/-- How far a script has been read. -/
structure Reader where
  rest : List Char
  /-- What follows the text of a stream that has been read to its end. -/
  beyond : List Char
  line : Nat
  /-- A token that was read but not used. -/
  pushed : Option Token
  /-- The token read last. -/
  last : Token
  /-- The word read last. -/
  word : List Piece
  due : List Due
  /-- The texts inside the script that streams read. -/
  inlined : Array (List Piece)

/-- A step of reading a script. -/
abbrev Read := EStateM SyntaxFault Reader

namespace Read

/-- The text behind line ends that a backslash cancels, and the number of its first line. -/
def dropJoints : List Char → Nat → List Char × Nat
  | '\\' :: '\n' :: rest, line => dropJoints rest (line + 1)
  | cs, line => (cs, line)

/-- The next character. -/
def peek : Read (Option Char) := do
  modify fun reader =>
    let (rest, line) := dropJoints reader.rest reader.line
    { reader with rest, line }
  return (← get).rest.head?

/-- Goes past a character. -/
def skip : Read Unit :=
  modify fun reader =>
    match reader.rest with
    | [] => reader
    | c :: rest => { reader with rest, line := if c = '\n' then reader.line + 1 else reader.line }

/-- The next character, and goes past it, even where a backslash cancels a line end. -/
def nextRaw : Read (Option Char) := do
  let c := (← get).rest.head?
  skip
  return c

/-- The next character, and goes past it. -/
def next : Read (Option Char) := do
  let _ ← peek
  nextRaw

/-- The next character, and goes past it as if it stood on the line before. -/
def swallow : Read (Option Char) := do
  let _ ← peek
  modifyGet fun reader => (reader.rest.head?, { reader with rest := reader.rest.drop 1 })

/-- Goes past a character if it comes next, and tells whether it did. -/
def take (wanted : Char) : Read Bool := do
  if (← peek) = some wanted then
    skip
    return true
  else return false

/-- Characters of a kind; the fuel bounds their count. -/
def takeWhile (isWanted : Char → Bool) : Nat → Read (List Char)
  | 0 => return []
  | fuel + 1 => do
    match ← peek with
    | some c =>
      if isWanted c then
        skip
        return c :: (← takeWhile isWanted fuel)
      else return []
    | none => return []

/-- The name at the front. -/
def name (isWanted : Char → Bool) : Read String := do
  return String.ofList (← takeWhile isWanted (← get).rest.length)

/-- The text up to a quotation mark that nothing but itself ends. -/
def plainQuotation : Read String := do
  match Text.splitFirst '\x27' (← get).rest with
  | none =>
    modify fun reader => { reader with line := reader.line + reader.rest.count '\n', rest := [] }
    throw .openQuotation
  | some (inside, rest) =>
    modify fun reader => { reader with line := reader.line + inside.count '\n', rest }
    return String.ofList inside

/-- The script between backquotes; the fuel bounds its length. -/
def backquoted (quoted : Bool) : Nat → Read (List Char)
  | 0 => throw .endless
  | fuel + 1 => do
    match ← next with
    | none => throw .openBackquote
    | some '`' => return []
    | some '\\' =>
      match ← nextRaw with
      | none => throw .openBackquote
      | some c =>
        -- Only characters that would mean something there lose their backslash.
        let plain := c = '\\' || c = '`' || c = '$' || (quoted && c = '"')
        let rest ← backquoted quoted fuel
        return if plain then c :: rest else '\\' :: c :: rest
    | some c => return c :: (← backquoted quoted fuel)

/-- Gives a token back to be read once more. -/
def pushBack (token : Token) : Read Unit :=
  modify ({ · with pushed := some token })

/-- Refuses the token read last. -/
def refuse {α : Type} (wanted : Option Token) : Read α := do
  throw (.unexpected (← get).last wanted)

/-- One line without its end, and whether it had one. -/
def rawLine : Read (List Char × Bool) := do
  let reader ← get
  match Text.splitFirst '\n' reader.rest with
  | some (line, rest) =>
    set { reader with rest, line := reader.line + 1 }
    return (line, true)
  | none =>
    set { reader with rest := [] }
    return (reader.rest, false)

/-- The text of a stream, as it is, up to the line that ends it; the fuel bounds the lines. -/
def dueText (due : Due) : Nat → Read (List Char)
  | 0 => throw .endless
  | fuel + 1 => do
    if (← get).rest = [] then return []
    let (line, ended) ← rawLine
    let line := if due.tabless then line.dropWhile (· == '\t') else line
    if line = due.mark.toList then return []
    let end_ := if ended then ['\n'] else []
    return line ++ end_ ++ (← dueText due fuel)

/-- Starts a line of the text of a stream; at the line that ends the text nothing more is seen. -/
def startLine (due : Due) : Read Unit :=
  modify fun reader =>
    let rest := if due.tabless then reader.rest.dropWhile (· == '\t') else reader.rest
    let mark := due.mark.toList
    let after := rest.drop mark.length
    if mark.isPrefixOf rest && (after.head?.getD '\n') = '\n' then
      { reader with rest := [], beyond := after.drop 1, line := reader.line + 1 }
    else { reader with rest }

end Read

/-- Adds text to the parts of a word read so far, last part first. -/
def pushText (text : String) (quoted : Bool) : List Piece → List Piece
  | .text before same :: pieces =>
    if same = quoted then .text (before ++ text) quoted :: pieces
    else .text text quoted :: .text before same :: pieces
  | pieces => .text text quoted :: pieces

end AuditStage.Shell
