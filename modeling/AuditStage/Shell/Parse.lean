import AuditStage.Shell.Reader

/-! The grammar of a shell script: its words, its commands, and the texts that stand inside it. -/

namespace AuditStage.Shell

/-- Where a text that is being read ends. -/
inductive Closing where
  | blank
  | quote
  | brace
  /-- Two parentheses, behind as many open ones. -/
  | sum (depth : Nat)
  | never
deriving DecidableEq

/-- How the characters of a text are read. -/
structure Manner where
  closing : Closing
  /-- Whether characters mean themselves as between double quotes. -/
  quoted : Bool
  /-- The stream that the text stands inside the script for, if it does. -/
  stream : Option Due
  /-- Whether the text stands between braces. -/
  braced : Bool
  /-- Whether nothing is expanded. -/
  literal : Bool

namespace Manner

/-- The manner of a word. -/
def word (literal : Bool) : Manner :=
  ⟨.blank, false, none, false, literal⟩

/-- The manner of a text that a stream reads. -/
def ofStream (due : Due) : Manner :=
  ⟨.never, true, some due, false, false⟩

/-- Whether the text stands inside the script for a stream to read. -/
def inlined (manner : Manner) : Bool :=
  manner.stream.isSome

/-- The manner of an integer expression. -/
def expression (manner : Manner) : Manner :=
  { manner with closing := .sum 0, quoted := true, braced := false, literal := false }

/-- The manner of what stands between double quotes. -/
def quotation (manner : Manner) : Manner :=
  { manner with closing := .quote, quoted := true }

/-- The manner of what stands behind a parameter's name between braces. -/
def operand (manner : Manner) (request : Request) : Manner :=
  match request with
  -- A pattern is read as if no quotes stood around it.
  | .trim _ _ => { manner with closing := .brace, quoted := false, braced := true }
  | _ => { manner with closing := .brace, braced := true }

/-- Whether a character ends a text. -/
def endsAt (manner : Manner) (c : Char) : Bool :=
  match manner.closing with
  | .blank => " \t\n;&|<>()".toList.contains c
  | .quote => c == '"'
  | .brace => c == '\x7d'
  | .sum _ | .never => false

/-- What is wrong with a text that has no end. -/
def openFault? (manner : Manner) : Option SyntaxFault :=
  match manner.closing with
  | .blank | .never => none
  | .quote => some (if manner.inlined then .openBrace else .openQuotation)
  | .brace => some (if manner.quoted && !manner.inlined then .openQuotation else .openBrace)
  | .sum _ => some .openSum

/-- Whether a backslash only takes the meaning away from a character. -/
def escapes (manner : Manner) (c : Char) : Bool :=
  !manner.quoted || "\\`$".toList.contains c ||
    (c == '"' && (!manner.inlined || manner.braced)) || (c == '\x7d' && manner.braced)

/-- Whether a double quote starts a quotation. -/
def hasQuotations (manner : Manner) : Bool :=
  match manner.closing with
  | .sum _ => false
  | _ => !manner.inlined || manner.braced

/-- The manner behind a parenthesis. -/
def deeper (manner : Manner) : Manner :=
  match manner.closing with
  | .sum depth => { manner with closing := .sum (depth + 1) }
  | _ => manner

/-- The manner behind a closing parenthesis, unless it may end the text. -/
def shallower? (manner : Manner) : Option Manner :=
  match manner.closing with
  | .sum 0 => none
  | .sum (depth + 1) => some { manner with closing := .sum depth }
  | _ => some manner

end Manner

/-- What else a token may be taken for where it stands. -/
structure Check where
  /-- Whether words may have a meaning of their own. -/
  keywords : Bool
  /-- Whether line ends mean nothing. -/
  lines : Bool

namespace Check

/-- A token is what it looks like. -/
def none : Check :=
  ⟨false, false⟩

/-- A command may start here. -/
def command : Check :=
  ⟨true, false⟩

/-- A command, or a word that closes something, may stand here or on a later line. -/
def commandLater : Check :=
  ⟨true, true⟩

end Check

/-- How far a list of commands goes. -/
inductive Extent where
  /-- To the end of the line. -/
  | line
  /-- To the word that ends it, behind at least one command. -/
  | body
  /-- To the word that ends it. -/
  | maybeEmpty
deriving DecidableEq

/-- The words that have a meaning of their own. -/
def keywords : List String :=
  ["!", "case", "do", "done", "elif", "else", "esac", "fi", "for", "if", "in", "then", "until",
   "while", "\x7b", "\x7d"]

/-- Whether a token ends a list of commands. -/
def Token.endsList : Token → Bool
  | .ended => true
  | .mark text => text == ")" || text == ";;"
  | .keyword text =>
    ["do", "done", "elif", "else", "esac", "fi", "then", "\x7d"].contains text
  | _ => false

/-- The commands whose names no function may have, because the shell itself depends on them. -/
def specialCommands : List String :=
  [".", ":", "break", "continue", "eval", "exec", "exit", "export", "local", "readonly", "return",
   "set", "shift", "times", "trap", "unset"]

/-- Whether a character behind a dollar sign names a parameter by itself. -/
def isSpecialParameter (c : Char) : Bool :=
  c.isDigit || "@*#?$!-".toList.contains c

/-- Commands one after the other. -/
def Script.append : Script → Script → Script
  | .nothing, second => second
  | first, second => .inOrder first second

namespace Read

/-- Takes note of a token. -/
def accept (token : Token) : Read Token := do
  modify ({ · with last := token })
  return token

/-- Reads the rest of the sign of a redirection. -/
def redirectSign (first : Char) : Read String := do
  let follow := fun (c : Char) => Read.take c
  if first = '>' then
    if ← follow '>' then return ">>"
    else if ← follow '|' then return ">|"
    else if ← follow '&' then return ">&"
    else return ">"
  else if ← follow '<' then
    if ← follow '-' then return "<<-" else return "<<"
  else if ← follow '&' then return "<&"
  else if ← follow '>' then return "<>"
  else return "<"

/-- The request of a sign behind a name, with or without a colon before it. -/
def requestOf (colon : Bool) : Char → Request
  | '-' => .orElse colon
  | '=' => .orAssign colon
  | '?' => .orFail colon
  | '+' => .ifSet colon
  | '\x7d' => if colon then .valueBefore else .value
  | _ => .unknown

/-- What a parameter is asked for, by the characters behind its name; one that asks for nothing is
lost. -/
def request : Read Request := do
  match ← swallow with
  | none => return .unknown
  | some ':' => return ((← swallow).map (requestOf true)).getD .unknown
  | some c =>
    if c = '#' || c = '%' then return .trim (c = '%') (← Read.take c)
    else return requestOf false c

/-- The name of a parameter between braces, if it has one, and what the parameter is asked for. -/
def bracedParameter : Read (String × Request) := do
  let before ← get
  match ← swallow with
  | none => return ("", .unknown)
  | some '\x7d' =>
    set before
    return ("", .unknown)
  | some c =>
    if startsName c then return (String.singleton c ++ (← Read.name isNameChar), ← request)
    else if c.isDigit then return (String.singleton c ++ (← Read.name Char.isDigit), ← request)
    else if c ≠ '#' then
      if isSpecialParameter c then return (String.singleton c, ← request) else return ("", .unknown)
    else
      let measured := fun (name : String) => do
        return (name, if (← peek) = some '\x7d' then Request.length else .unknown)
      match ← peek with
      | none => return ("#", .unknown)
      | some c =>
        if startsName c then measured (← Read.name isNameChar)
        else if c.isDigit then measured (← Read.name Char.isDigit)
        else
          -- A second sign is the parameter only if nothing follows it.
          let before ← get
          skip
          if c ≠ '\x7d' && (← peek) = some '\x7d' then
            if isSpecialParameter c then return (String.singleton c, .length)
            else return ("", .unknown)
          else
            set before
            return ("#", ← request)

end Read

mutual

/-- Reads the parts of a text, behind those read already, up to its end; the fuel bounds the
calls. -/
def readPieces : Nat → Manner → List Piece → Read (List Piece)
  | 0, _, _ => throw .endless
  | fuel + 1, manner, pieces => do
    match ← Read.peek with
    | none =>
      match manner.openFault? with
      | some fault => throw fault
      | none => return pieces.reverse
    | some c =>
      if manner.endsAt c then
        -- What ends a word is no part of it, and is read again.
        if manner.closing ≠ .blank then Read.skip
        return pieces.reverse
      else
        Read.skip
        let push := fun (text : String) (quoted : Bool) => pushText text quoted pieces
        let plain := push (String.singleton c) manner.quoted
        match c with
        | '\\' =>
          match ← Read.nextRaw with
          | none => readPieces fuel manner (push "\\" true)
          | some c =>
            let kept := if manner.escapes c then "" else "\\"
            readPieces fuel manner (push (kept ++ String.singleton c) true)
        | '\x27' =>
          if manner.quoted then readPieces fuel manner plain
          else readPieces fuel manner (push (← Read.plainQuotation) true)
        | '"' =>
          if manner.hasQuotations then
            let inside ← readPieces fuel manner.quotation []
            -- All arguments between quotes may be no word at all; other quotations are.
            match inside with
            | [.parameter "@" .value _ _] => readPieces fuel manner (inside.reverse ++ pieces)
            | _ =>
              readPieces fuel manner (pushText "" true (inside.reverse ++ pushText "" true pieces))
          else readPieces fuel manner plain
        | '`' =>
          if manner.literal then readPieces fuel manner (push "`" true)
          else readPieces fuel manner ((← readBackquoted fuel manner.quoted) :: pieces)
        | '$' =>
          if manner.literal then readPieces fuel manner plain
          else
            match ← readDollar fuel manner with
            | .text text quoted => readPieces fuel manner (push text quoted)
            | piece => readPieces fuel manner (piece :: pieces)
        | '(' => readPieces fuel manner.deeper plain
        | ')' =>
          match manner.shallower? with
          | some manner => readPieces fuel manner plain
          | none => if ← Read.take ')' then return pieces.reverse else readPieces fuel manner plain
        | '\n' =>
          manner.stream.forM Read.startLine
          readPieces fuel manner plain
        | _ => readPieces fuel manner plain

/-- Reads what stands behind a dollar sign; a sign that names nothing stands for itself. -/
def readDollar : Nat → Manner → Read Piece
  | 0, _ => throw .endless
  | fuel + 1, manner => do
    match ← Read.peek with
    | none => return .text "$" manner.quoted
    | some '(' =>
      Read.skip
      if ← Read.take '(' then return .sum (← readPieces fuel manner.expression []) manner.quoted
      else return .output (← readInner fuel) manner.quoted
    | some '\x7b' =>
      Read.skip
      readBraced fuel manner
    | some c =>
      if startsName c then return .parameter (← Read.name isNameChar) .value [] manner.quoted
      else if isSpecialParameter c then
        Read.skip
        return .parameter (String.singleton c) .value [] manner.quoted
      else return .text "$" manner.quoted

/-- Reads a parameter between braces. -/
def readBraced : Nat → Manner → Read Piece
  | 0, _ => throw .endless
  | fuel + 1, manner => do
    match ← Read.bracedParameter with
    | (name, .value) => return .parameter name .value [] manner.quoted
    | (name, request) =>
      let other ← readPieces fuel (manner.operand request) []
      return .parameter name request other manner.quoted

/-- Reads a script up to the parenthesis that closes it. -/
def readInner : Nat → Read Script
  | 0 => throw .endless
  | fuel + 1 => do
    let due := (← get).due
    modify ({ · with due := [] })
    let script ← readList fuel .maybeEmpty
    match ← readToken fuel .none with
    | .mark ")" =>
      modify ({ · with due })
      return script
    | _ => Read.refuse (some (.mark ")"))

/-- Reads a script between backquotes. -/
def readBackquoted : Nat → Bool → Read Piece
  | 0, _ => throw .endless
  | fuel + 1, quoted => do
    let inside ← Read.backquoted quoted ((← get).rest.length + 1)
    let outer ← get
    set { outer with rest := inside, due := [], line := 1 }
    let script ← readList fuel .maybeEmpty
    set { outer with inlined := (← get).inlined }
    return .output script quoted

/-- Reads a token as it looks. -/
def readRaw : Nat → Bool → Read Token
  | 0, _ => throw .endless
  | fuel + 1, literal => do
    match ← Read.peek with
    | none => return .ended
    | some ' ' | some '\t' =>
      Read.skip
      readRaw fuel literal
    | some '#' =>
      modify fun reader => { reader with rest := reader.rest.dropWhile (· != '\n') }
      readRaw fuel literal
    | some '\n' => Read.skip *> return .newline
    | some '(' => Read.skip *> return .mark "("
    | some ')' => Read.skip *> return .mark ")"
    | some '&' => Read.skip *> return .mark (if ← Read.take '&' then "&&" else "&")
    | some '|' => Read.skip *> return .mark (if ← Read.take '|' then "||" else "|")
    | some ';' => Read.skip *> return .mark (if ← Read.take ';' then ";;" else ";")
    | some '<' => Read.skip *> return .redirect none (← Read.redirectSign '<')
    | some '>' => Read.skip *> return .redirect none (← Read.redirectSign '>')
    | some c =>
      let before ← get
      Read.skip
      let stream := if c.isDigit then some (c.toNat - '0'.toNat) else none
      match stream, ← Read.peek with
      | some _, some '<' => Read.skip *> return .redirect stream (← Read.redirectSign '<')
      | some _, some '>' => Read.skip *> return .redirect stream (← Read.redirectSign '>')
      | _, _ =>
        set before
        let pieces ← readPieces fuel (.word literal) []
        modify ({ · with word := pieces })
        return .word pieces

/-- Reads a token as what it means where it stands. -/
def readToken : Nat → Check → Read Token
  | 0, _ => throw .endless
  | fuel + 1, check => do
    let token ←
      match (← get).pushed with
      | some token =>
        modify ({ · with pushed := none })
        pure token
      | none => readRaw fuel false
    match token with
    | .newline =>
      if check.lines then
        readDue fuel
        readToken fuel check
      else Read.accept token
    | .word pieces =>
      match plainText? pieces with
      | some text =>
        if check.keywords && keywords.contains text then Read.accept (.keyword text)
        else Read.accept token
      | none => Read.accept token
    | token => Read.accept token

/-- Reads the texts inside the script whose lines come next. -/
def readDue : Nat → Read Unit
  | 0 => throw .endless
  | fuel + 1 => do
    match (← get).due with
    | [] => return
    | due :: more =>
      let pieces ←
        if due.literal then
          let text ← Read.dueText due ((← get).rest.length + 1)
          pure [.text (String.ofList text) true]
        else
          Read.startLine due
          let pieces ← readPieces fuel (.ofStream due) []
          modify fun reader => { reader with rest := reader.beyond, beyond := [] }
          pure pieces
      modify fun reader =>
        { reader with due := more, inlined := reader.inlined.setIfInBounds due.number pieces }
      readDue fuel

/-- Reads the target of a redirection. -/
def readTarget : Nat → Option Nat → String → Read Redirect
  | 0, _, _ => throw .endless
  | fuel + 1, stream, sign => do
    let inlined := sign = "<<" || sign = "<<-"
    match ← Read.accept (← readRaw fuel inlined) with
    | .word pieces =>
      let input := stream.getD 0
      let output := stream.getD 1
      match sign with
      | "<" => return .file input .read pieces
      | "<>" => return .file input .both pieces
      | ">" => return .file output .write pieces
      | ">|" => return .file output .overwrite pieces
      | ">>" => return .file output .append pieces
      | "<&" => return .copy input pieces
      | ">&" => return .copy output pieces
      | _ =>
        let number := (← get).inlined.size
        let due := ⟨bareText pieces, pieces.any Piece.isQuoted, sign = "<<-", number⟩
        modify fun reader =>
          { reader with due := reader.due ++ [due], inlined := reader.inlined.push [] }
        return .inline input number
    | _ => Read.refuse none

/-- Reads redirections. -/
def readRedirects : Nat → Read (List Redirect)
  | 0 => throw .endless
  | fuel + 1 => do
    match ← readToken fuel .command with
    | .redirect stream sign =>
      let redirect ← readTarget fuel stream sign
      return redirect :: (← readRedirects fuel)
    | token =>
      Read.pushBack token
      return []

/-- Reads commands one after the other. -/
def readList : Nat → Extent → Read Script
  | 0, _ => throw .endless
  | fuel + 1, extent => readListFrom fuel extent false .nothing

/-- Reads commands behind those read already. -/
def readListFrom : Nat → Extent → Bool → Script → Read Script
  | 0, _, _, _ => throw .endless
  | fuel + 1, extent, later, script => do
    let check := if extent = .line then Check.command else Check.commandLater
    match ← readToken fuel check with
    | .newline =>
      readDue fuel
      return script
    | .ended =>
      readDue fuel
      Read.pushBack .ended
      return script
    | token =>
      Read.pushBack token
      if token.endsList && (extent = .maybeEmpty || (extent = .body && later)) then return script
      let more ← readChain fuel .none
      let token ← readToken fuel .none
      let more :=
        match token with
        | .mark "&" => Script.behind more
        | _ => more
      let script := script.append more
      match token with
      | .ended =>
        readDue fuel
        Read.pushBack .ended
        return script
      | .newline =>
        Read.pushBack .newline
        readListFrom fuel extent true script
      | .mark ";" | .mark "&" => readListFrom fuel extent true script
      | token =>
        if extent = .line then Read.refuse none
        Read.pushBack token
        return script

/-- Reads commands that depend on each other's success. -/
def readChain : Nat → Check → Read Script
  | 0, _ => throw .endless
  | fuel + 1, check => do
    let first ← readPipe fuel check
    readChainFrom fuel first

/-- Reads the commands that depend on the success of the one read already. -/
def readChainFrom : Nat → Script → Read Script
  | 0, _ => throw .endless
  | fuel + 1, first => do
    match ← readToken fuel .none with
    | .mark "&&" =>
      let second ← readPipe fuel .commandLater
      readChainFrom fuel (.guarded true first second)
    | .mark "||" =>
      let second ← readPipe fuel .commandLater
      readChainFrom fuel (.guarded false first second)
    | token =>
      Read.pushBack token
      return first

/-- Reads commands that pass their output on, and whether the outcome is turned round. -/
def readPipe : Nat → Check → Read Script
  | 0, _ => throw .endless
  | fuel + 1, check => do
    match ← readToken fuel check with
    | .keyword "!" => return .negated (← readStages fuel .command)
    | token =>
      Read.pushBack token
      readStages fuel .none

/-- Reads commands that pass their output on. -/
def readStages : Nat → Check → Read Script
  | 0, _ => throw .endless
  | fuel + 1, check => do
    let first ← readCommand fuel check
    match ← readMoreStages fuel with
    | [] => return first
    | stages => return .piped (first :: stages)

/-- Reads the commands that the output of the ones read already is passed on to. -/
def readMoreStages : Nat → Read (List Script)
  | 0 => throw .endless
  | fuel + 1 => do
    match ← readToken fuel .none with
    | .mark "|" =>
      let stage ← readCommand fuel .commandLater
      return stage :: (← readMoreStages fuel)
    | token =>
      Read.pushBack token
      return []

/-- Goes past a token that has to come next. -/
def expect : Nat → Token → Read Unit
  | 0, _ => throw .endless
  | fuel + 1, wanted => do
    let token ← readToken fuel .none
    unless token.description = wanted.description do Read.refuse (some wanted)

/-- Reads one command. -/
def readCommand : Nat → Check → Read Script
  | 0, _ => throw .endless
  | fuel + 1, check => do
    let line := (← get).line
    match ← readToken fuel check with
    | .keyword "if" =>
      let script ← readBranch fuel
      expect fuel (.keyword "fi")
      withRedirects fuel line script
    | .keyword "while" => withRedirects fuel line (← readLoop fuel true)
    | .keyword "until" => withRedirects fuel line (← readLoop fuel false)
    | .keyword "for" => withRedirects fuel line (← readEach fuel line)
    | .keyword "case" =>
      match ← readToken fuel .none with
      | .word word =>
        match ← readToken fuel .commandLater with
        | .keyword "in" => withRedirects fuel line (.choice line word (← readArms fuel))
        | _ => Read.refuse (some (.keyword "in"))
      | _ => Read.refuse (some (.word []))
    | .mark "(" =>
      let body ← readList fuel .body
      expect fuel (.mark ")")
      return .apart line body (← readRedirects fuel)
    | .keyword "\x7b" =>
      let body ← readList fuel .body
      expect fuel (.keyword "\x7d")
      withRedirects fuel line body
    | .word pieces =>
      Read.pushBack (.word pieces)
      readSimple fuel (← get).line [] [] []
    | .redirect stream sign =>
      Read.pushBack (.redirect stream sign)
      readSimple fuel (← get).line [] [] []
    | _ => Read.refuse none

/-- Reads the redirections behind a command. -/
def withRedirects : Nat → Nat → Script → Read Script
  | 0, _, _ => throw .endless
  | fuel + 1, line, script => do
    match ← readRedirects fuel with
    | [] => return script
    | redirects => return .redirected line script redirects

/-- Reads a simple command behind the settings, words and redirections read already. -/
def readSimple : Nat → Nat → List (String × List Piece) → List (List Piece) → List Redirect →
    Read Script
  | 0, _, _, _, _ => throw .endless
  | fuel + 1, line, settings, words, redirects => do
    match ← readToken fuel .none with
    | .word pieces =>
      match if words.isEmpty then setting? pieces else none with
      | some setting => readSimple fuel line (settings ++ [setting]) words redirects
      | none => readSimple fuel line settings (words ++ [pieces]) redirects
    | .redirect stream sign =>
      let redirect ← readTarget fuel stream sign
      readSimple fuel line settings words (redirects ++ [redirect])
    | token =>
      match token, words with
      | .mark "(", [word] =>
        if settings.isEmpty && redirects.isEmpty then readFunction fuel word
        else
          Read.pushBack token
          return .simple line settings words redirects
      | _, _ =>
        Read.pushBack token
        return .simple line settings words redirects

/-- Reads a function behind its name and a parenthesis. -/
def readFunction : Nat → List Piece → Read Script
  | 0, _ => throw .endless
  | fuel + 1, word => do
    expect fuel (.mark ")")
    match plainText? word with
    | some name =>
      if isName name && !specialCommands.contains name then
        return .define name (← readCommand fuel .commandLater)
      else throw .badFunctionName
    | none => throw .badFunctionName

/-- Reads a branch behind its first word. -/
def readBranch : Nat → Read Script
  | 0 => throw .endless
  | fuel + 1 => do
    let condition ← readList fuel .body
    expect fuel (.keyword "then")
    let yes ← readList fuel .body
    match ← readToken fuel .none with
    | .keyword "elif" => return .branch condition yes (← readBranch fuel)
    | .keyword "else" => return .branch condition yes (← readList fuel .body)
    | token =>
      Read.pushBack token
      return .branch condition yes .nothing

/-- Reads a loop behind its first word. -/
def readLoop : Nat → Bool → Read Script
  | 0, _ => throw .endless
  | fuel + 1, whileTrue => do
    let condition ← readList fuel .body
    expect fuel (.keyword "do")
    let body ← readList fuel .body
    expect fuel (.keyword "done")
    return .loop whileTrue condition body

/-- Reads a loop over words behind its first word. -/
def readEach : Nat → Nat → Read Script
  | 0, _ => throw .endless
  | fuel + 1, line => do
    match ← readToken fuel .none with
    | .word pieces =>
      match (plainText? pieces).filter isName with
      | none => throw .badLoopVariable
      | some name =>
        let words ←
          match ← readToken fuel .commandLater with
          | .keyword "in" => readItems fuel
          | .mark ";" => pure [[.parameter "@" .value [] true]]
          | token =>
            Read.pushBack token
            pure [[.parameter "@" .value [] true]]
        match ← readToken fuel .commandLater with
        | .keyword "do" =>
          let body ← readList fuel .body
          expect fuel (.keyword "done")
          return .each line name words body
        | _ => Read.refuse (some (.keyword "do"))
    | _ => throw .badLoopVariable

/-- Reads the words that a loop goes through. -/
def readItems : Nat → Read (List (List Piece))
  | 0 => throw .endless
  | fuel + 1 => do
    match ← readToken fuel .none with
    | .word pieces => return pieces :: (← readItems fuel)
    | .newline | .mark ";" => return []
    | _ => Read.refuse none

/-- Reads the arms of a choice. -/
def readArms : Nat → Read (List (List (List Piece) × Script))
  | 0 => throw .endless
  | fuel + 1 => do
    match ← readToken fuel .commandLater with
    | .keyword "esac" => return []
    | token =>
      let first ←
        match token with
        | .mark "(" => readToken fuel .none
        | token => pure token
      let pattern := first.pieces (← get).word
      let patterns := pattern :: (← readPatterns fuel)
      let body ← readList fuel .maybeEmpty
      match ← readToken fuel .commandLater with
      | .keyword "esac" => return [(patterns, body)]
      | .mark ";;" => return (patterns, body) :: (← readArms fuel)
      | _ => Read.refuse (some (.mark ";;"))

/-- Reads the patterns behind the first one, and the parenthesis that closes them. -/
def readPatterns : Nat → Read (List (List Piece))
  | 0 => throw .endless
  | fuel + 1 => do
    match ← readToken fuel .none with
    | .mark "|" =>
      let token ← readToken fuel .none
      let pattern := token.pieces (← get).word
      return pattern :: (← readPatterns fuel)
    | .mark ")" => return []
    | _ => Read.refuse (some (.mark ")"))

end

/-- How many steps reading a script of the given length may take one inside another. -/
def readingSteps (length : Nat) : Nat :=
  24 * length + 64

/-- A reader at the start of a script. -/
def Reader.ofText (text : String) (line : Nat) : Reader :=
  ⟨text.toList, [], line, none, .ended, [], [], #[]⟩

/-- The commands of the next line, unless the script has ended. -/
def Read.commands : Read (Option Script) := do
  modify ({ · with pushed := none, due := [] })
  let script ← readList (readingSteps (← get).rest.length) .line
  match script, (← get).pushed with
  | .nothing, some .ended => return none
  | script, _ => return some script

end AuditStage.Shell
