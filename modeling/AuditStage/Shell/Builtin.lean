import AuditStage.Shell.Condition
import AuditStage.Shell.Programs
import AuditStage.Shell.Signals

/-! The commands that a shell carries out itself and that run no other commands. -/

namespace AuditStage.Shell

/-- Prints words in a format. -/
def runPrintf (words : List String) : Act Unit := do
  let (_, words) ← Act.options "" "" words
  match words with
  | [] => Act.abort "usage: printf format [arg ...]"
  | format :: arguments =>
    let printing := formatted format arguments
    printing.complaints.forM Act.complain
    Act.print printing.text
    if printing.broken then throw .failed
    unless printing.complaints.isEmpty do Act.finish 1

/-- Tests a condition. -/
def runTest (words : List String) : Act Unit := do
  match condition (← get) false words with
  | .ok truth => Act.finishWith truth
  | .error reason => Act.abort reason

/-- Tests a condition that a word with a bracket in front closes. -/
def runBracket (words : List String) : Act Unit :=
  if (words.getLastD "").startsWith "]" then runTest words.dropLast else Act.abort "missing ]"

/-- Changes the directory. -/
def runCd (words : List String) : Act Unit := do
  let (options, words) ← Act.options "" "LP" words
  let state ← get
  let back := words.head? = some "-"
  let target :=
    match words with
    | [] => (state.value? "HOME").getD ""
    | "-" :: _ => (state.value? "OLDPWD").getD state.directory
    | word :: _ => word
  let physical := (options.getLast?.map Prod.fst) = some 'P'
  let path := if target = "" then state.directory else state.absolute target
  match state.disk.enter (characterText (if physical then target else path)) with
  | .error _ => Act.abort ("can\x27t cd to " ++ target)
  | .ok disk =>
    let directory := if physical then octetText ("/" ++ "/".intercalate disk.home) else path
    let exported := fun (value : String) => some ⟨some value, true, false⟩
    set ((state.withVariable "OLDPWD" (exported state.directory)).withVariable "PWD"
      (exported directory))
    modify ({ · with disk, directory })
    if back then Act.print (directory ++ "\n") else Act.finish 0

/-- Prints the directory. -/
def runPwd (words : List String) : Act Unit := do
  let (options, _) ← Act.options "" "LP" words
  let state ← get
  let physical := (options.getLast?.map Prod.fst) = some 'P'
  let place := octetText ("/" ++ "/".intercalate state.disk.home)
  Act.print ((if physical then place else state.directory) ++ "\n")

/-- Waits for processes, and ends as the last of them did. -/
def runWait (words : List String) : Act Unit := do
  let (_, words) ← Act.options "" "" words
  Act.finish 0
  for word in words do
    if word.startsWith "%" then Act.abort ("No such job: " ++ word)
    let process ← Act.count word
    let ended := (← get).ended
    Act.finish ((ended.lookup process).getD 127)
    modify ({ · with ended := ended.filter (·.1 != process) })
  if words = [] then modify ({ · with ended := [] })

/-- Leaves the shell with the code that a word asks for, of which the system keeps eight bits. -/
def runExit (words : List String) : Act Unit := do
  match words with
  | [] =>
    let state ← get
    throw (.exited (state.leaving.getD state.status))
  | word :: _ => throw (.exited ((← Act.count word) % 256))

/-- Leaves a function. -/
def runReturn (words : List String) : Act Unit := do
  match words with
  | [] => throw (.returned (← get).status)
  | word :: _ => throw (.returned (← Act.count word))

/-- Leaves loops, or starts one again. -/
def leaveLoop (again : Bool) (words : List String) : Act Unit := do
  let count ←
    match words with
    | [] => pure 1
    | word :: _ =>
      match ← Act.count word with
      | 0 => Act.abort ("Illegal number: " ++ word)
      | count => pure count
  match min count (← get).loops with
  | 0 => Act.finish 0
  | loops + 1 => throw (.left again loops)

/-- What a shell does with the words of its own commands. -/
def builtin? (name : String) : Option (List String → Act Unit) :=
  match name with
  | "echo" => some fun words => Act.print (echoed words)
  | "printf" => some runPrintf
  | "true" | ":" => some fun _ => Act.finish 0
  | "false" => some fun _ => Act.finish 1
  | "test" => some runTest
  | "[" => some runBracket
  | "exit" => some runExit
  | "return" => some runReturn
  | "break" => some (leaveLoop false)
  | "continue" => some (leaveLoop true)
  | "kill" => some runKill
  | "trap" => some runTrap
  | "cd" | "chdir" => some runCd
  | "pwd" => some runPwd
  | "shift" => some runShift
  | "set" => some runSet
  | "export" =>
    some (runMark "export" Variable.exported fun variable_ => { variable_ with exported := true })
  | "readonly" =>
    some (runMark "readonly" Variable.readOnly fun variable_ => { variable_ with readOnly := true })
  | "unset" => some runUnset
  | "local" => some runLocal
  | "read" => some runRead
  | "getopts" => some runGetopts
  | "wait" => some runWait
  | _ => none

/-- The commands of a shell that run other commands. -/
def runningCommands : List String :=
  [".", "eval", "exec", "command"]

/-- Whether a shell carries out a command itself. -/
def isBuiltin (name : String) : Bool :=
  (builtin? name).isSome || runningCommands.contains name

end AuditStage.Shell
