import AuditStage.SourceMap
import AuditStage.Text.Basic
import AuditStage.Text.DecimalDigit

/-! The compiler version that source text pins, or that an explorer reports. -/

namespace AuditStage.Version

/-- The digits at the front of a text, if there are any, and the text behind them. -/
def readDigits (cs : List Char) : Option (List Char × List Char) :=
  match cs.takeWhile Text.isDecimalDigit with
  | [] => none
  | digits => some (digits, cs.dropWhile Text.isDecimalDigit)

/-- The digits behind a dot. -/
def readDotDigits : List Char → Option (List Char × List Char)
  | '.' :: cs => readDigits cs
  | _ => none

/-- Three runs of digits joined by dots, and the text behind them. -/
def readTriple (cs : List Char) : Option (List Char × List Char) := do
  let (major, cs) ← readDigits cs
  let (minor, cs) ← readDotDigits cs
  let (patch, cs) ← readDotDigits cs
  some (major ++ '.' :: minor ++ '.' :: patch, cs)

/-- A text without the letter that may stand before a version. -/
def dropLetter : List Char → List Char
  | 'v' :: cs => cs
  | cs => cs

/-- An expression without the sign that still pins one version. -/
def dropSign : List Char → List Char
  | '^' :: cs | '=' :: cs => cs
  | cs => cs

/-- The version that an expression pins, if it pins exactly one. -/
def pinned? (expression : String) : Option String :=
  match readTriple (dropLetter (Text.trimStart (dropSign (Text.trim expression.toList)))) with
  | some (version, []) => some (String.ofList version)
  | _ => none

/-- The version at the front of what an explorer reports. -/
def reported? (raw : String) : Option String :=
  (readTriple (dropLetter (Text.trim raw.toList))).map fun parts => String.ofList parts.1

/-- A text behind a word at its front. -/
def dropWord (word cs : List Char) : Option (List Char) :=
  if word.isPrefixOf cs then some (cs.drop word.length) else none

/-- A text behind the blanks at its front, of which there is at least one. -/
def dropBlanks (cs : List Char) : Option (List Char) :=
  if cs.head?.any Text.isBlank then some (Text.trimStart cs) else none

/-- The version expression of a directive that starts on a line. -/
def lineExpression? (line : List Char) : Option (List Char) := do
  let cs ← dropWord "pragma".toList (Text.trimStart line)
  let cs ← dropBlanks cs
  let cs ← dropWord "solidity".toList cs
  let (body, _) ← Text.splitFirst ';' cs
  -- A blank parts the expression from the word before it, and the expression is not empty.
  if body.head?.any Text.isBlank && 2 ≤ body.length then some (Text.trim body) else none

/-- The version expressions of all directives that start a line, in order. -/
def expressions (source : String) : List String :=
  (Text.lines source.toList).filterMap fun line => (lineExpression? line).map String.ofList

/-- The one version that all expressions pin, if they agree. -/
def agreed? : List String → Option String
  | [] => none
  | expression :: more => do
    let version ← pinned? expression
    if more.all fun other => pinned? other == some version then some version else none

/-- The version that the directives of all files pin, if they agree. -/
def fromSources? (sources : SourceMap) : Option String :=
  agreed? (sources.files.flatMap fun file => expressions file.2)

/-- The version for sources: what they pin, or else what the explorer reports. -/
def resolve? (sources : SourceMap) (reported : String) : Option String :=
  (fromSources? sources).or (reported? reported)

end AuditStage.Version
