import AuditStage.SystemError
import AuditStage.Text.Utf8

/-! External commands and what comes back from them. -/

namespace AuditStage

/-- A command to run: the program, its arguments as they are, and the directory to run it in. -/
structure Command where
  program : String
  args : List String
  directory : Option String
deriving Repr, DecidableEq

/-- A command as it is shown to a reader: arguments with a space stand between quotes. -/
def Command.display (command : Command) : String :=
  command.args.foldl (fun shown arg =>
    shown ++ (if arg.toList.contains ' ' then " \"" ++ arg ++ "\"" else " " ++ arg)) command.program

/-- What a finished command left behind. -/
structure CommandOutput where
  success : Bool
  /-- The exit code, unless a signal ended the command. -/
  code : Option Int
  stdout : String
  stderr : String
deriving Repr, DecidableEq

namespace CommandOutput

/-- A success that printed the given text. -/
def succeeded (stdout : String) : CommandOutput :=
  ⟨true, some 0, stdout, ""⟩

/-- A failure with the given code that complained with the given text. -/
def failed (code : Int) (stderr : String) : CommandOutput :=
  ⟨false, some code, "", stderr⟩

end CommandOutput

/-- The outcome of running a command: its output, or why it could not be run at all. -/
abbrev ToolReply := Except SystemError CommandOutput

/-- How many octets one word of a command may have. -/
def Command.wordLimit : Nat :=
  131071

/-- Why a command's own words keep it from being started, whatever programs there are. -/
def Command.fault? (command : Command) : Option SystemError :=
  let words := command.program :: command.args
  if (words ++ command.directory.toList).any (·.toList.contains '\x00') then some .nulInCommand
  else if words.any fun word => wordLimit < Text.octetCount word.toList then some .tooManyWords
  else none

/-- The replies that external commands will give, in order, and the programs there are. -/
structure Tools where
  replies : List ToolReply
  /-- The programs that can be found; without a list every program can. -/
  programs : Option (List String)

namespace Tools

/-- The reply to a command that is started, and the replies left for the next one. -/
def run (tools : Tools) : ToolReply × Tools :=
  match tools.replies with
  | [] => (.ok (.succeeded ""), tools)
  | reply :: replies => (reply, { tools with replies })

end Tools

end AuditStage
