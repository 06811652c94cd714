import AuditStage.Text.Basic

/-! The commands of a shell script, and the words that they are made of. -/

namespace AuditStage.Shell

/-- What a word wants from a parameter. -/
inductive Request where
  | value
  /-- The value and the text between it and the brace, but nothing behind that. -/
  | valueBefore
  | length
  /-- Another text stands in for a value that is missing. -/
  | orElse (emptyIsMissing : Bool)
  /-- The text that stands in for a missing value becomes the value. -/
  | orAssign (emptyIsMissing : Bool)
  /-- A missing value ends the script with a complaint. -/
  | orFail (emptyIsMissing : Bool)
  /-- Another text stands in for a value that is there. -/
  | ifSet (emptyIsMissing : Bool)
  /-- What a pattern matches is taken away from one end. -/
  | trim (fromEnd longest : Bool)
  | unknown
deriving Repr, DecidableEq

/-- How a file is opened for a stream. -/
inductive Opening where
  | read
  /-- The file is emptied, unless files are to be kept. -/
  | write
  /-- The file is emptied whatever it is. -/
  | overwrite
  | append
  | both
deriving Repr, DecidableEq

mutual

/-- A part of a word. -/
inductive Piece where
  | text (text : String) (quoted : Bool)
  | parameter (name : String) (request : Request) (other : List Piece) (quoted : Bool)
  | sum (expression : List Piece) (quoted : Bool)
  | output (script : Script) (quoted : Bool)

/-- A redirection of a numbered stream. -/
inductive Redirect where
  | file (stream : Nat) (opening : Opening) (target : List Piece)
  /-- The stream goes where the stream goes whose number is the target. -/
  | copy (stream : Nat) (target : List Piece)
  /-- The stream reads one of the texts that stand in the script itself. -/
  | inline (stream number : Nat)

/-- A command, with the line that it starts in where it may complain. -/
inductive Script where
  | nothing
  | simple (line : Nat) (settings : List (String × List Piece)) (words : List (List Piece))
    (redirects : List Redirect)
  | inOrder (first second : Script)
  /-- The second command runs only if the first one succeeds, or only if it fails. -/
  | guarded (onSuccess : Bool) (first second : Script)
  | negated (script : Script)
  | piped (stages : List Script)
  /-- A command that nobody waits for. -/
  | behind (script : Script)
  | branch (condition yes no : Script)
  | loop (whileTrue : Bool) (condition body : Script)
  | each (line : Nat) (name : String) (words : List (List Piece)) (body : Script)
  /-- The first arm runs that has a pattern for the word. -/
  | choice (line : Nat) (word : List Piece) (arms : List (List (List Piece) × Script))
  | define (name : String) (body : Script)
  | redirected (line : Nat) (body : Script) (redirects : List Redirect)
  /-- A command whose changes to the shell are forgotten. -/
  | apart (line : Nat) (body : Script) (redirects : List Redirect)

end

/-- Whether there is nothing to run. -/
def Script.isNothing : Script → Bool
  | .nothing => true
  | _ => false

/-- Whether a character may start a name. -/
def startsName (c : Char) : Bool :=
  c.isAlpha || c == '_'

/-- Whether a character may stand in a name. -/
def isNameChar (c : Char) : Bool :=
  c.isAlphanum || c == '_'

/-- Whether a text is a name. -/
def isName (text : String) : Bool :=
  (text.toList.head?.map startsName).getD false && text.toList.all isNameChar

/-- The text of a word without quotes or expansions. -/
def plainText? (pieces : List Piece) : Option String :=
  pieces.foldl (fun text piece =>
    match text, piece with
    | some text, .text more false => some (text ++ more)
    | _, _ => none) (some "")

/-- The text of a word in which nothing is expanded. -/
def bareText (pieces : List Piece) : String :=
  pieces.foldl (fun text piece =>
    match piece with
    | .text more _ => text ++ more
    | _ => text) ""

/-- Whether a part of a word stands between quotes. -/
def Piece.isQuoted : Piece → Bool
  | .text _ quoted | .parameter _ _ _ quoted | .sum _ quoted | .output _ quoted => quoted

/-- A word's name and value if it sets a variable. -/
def setting? (pieces : List Piece) : Option (String × List Piece) :=
  match pieces with
  | .text text false :: rest =>
    match Text.splitFirst '=' text.toList with
    | some (name, value) =>
      let value := if value = [] then rest else .text (String.ofList value) false :: rest
      if isName (String.ofList name) then some (String.ofList name, value) else none
    | none => none
  | _ => none

end AuditStage.Shell
