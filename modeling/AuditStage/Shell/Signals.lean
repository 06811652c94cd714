import AuditStage.Shell.Declaration

/-! The signals that a shell sends, and what it does when one comes. -/

namespace AuditStage.Shell

/-- The names of the signals, by number; the first one stands for the end of the shell. -/
def signalNames : List String :=
  ["EXIT", "HUP", "INT", "QUIT", "ILL", "TRAP", "ABRT", "BUS", "FPE", "KILL", "USR1", "SEGV",
   "USR2", "PIPE", "ALRM", "TERM", "16", "CHLD", "CONT", "STOP", "TSTP", "TTIN", "TTOU", "URG",
   "XCPU", "XFSZ", "VTALRM", "PROF", "WINCH", "IO", "PWR", "SYS", "32", "33", "RTMIN", "RTMIN+1",
   "RTMIN+2", "RTMIN+3", "RTMIN+4", "RTMIN+5", "RTMIN+6", "RTMIN+7", "RTMIN+8", "RTMIN+9",
   "RTMIN+10", "RTMIN+11", "RTMIN+12", "RTMIN+13", "RTMIN+14", "RTMIN+15", "RTMAX-14", "RTMAX-13",
   "RTMAX-12", "RTMAX-11", "RTMAX-10", "RTMAX-9", "RTMAX-8", "RTMAX-7", "RTMAX-6", "RTMAX-5",
   "RTMAX-4", "RTMAX-3", "RTMAX-2", "RTMAX-1", "RTMAX"]

/-- The signals that do nothing unless something is to be done about them. -/
def quietSignals : List Nat :=
  [0, 17, 18, 23, 28]

/-- The name of a signal. -/
def signalName (number : Nat) : String :=
  signalNames[number]?.getD ""

/-- The signal that a word names or numbers, if its number is not too small. -/
def signal? (least : Nat) (word : String) : Option Nat :=
  if word ≠ "" && word.toList.all Char.isDigit then
    let number := ofDigits 10 word.toList
    if number < signalNames.length then some number else none
  else (signalNames.idxOf? word.toUpper).filter (least ≤ ·)

/-- What the system says of a process that a signal has ended. -/
def deathNotice (signal : Nat) : String :=
  match signal with
  | 1 => "Hangup"
  | 2 | 13 => ""
  | 3 => "Quit"
  | 4 => "Illegal instruction"
  | 5 => "Trace/breakpoint trap"
  | 6 => "Aborted"
  | 7 => "Bus error"
  | 8 => "Floating point exception"
  | 9 => "Killed"
  | 10 => "User defined signal 1"
  | 11 => "Segmentation fault"
  | 12 => "User defined signal 2"
  | 14 => "Alarm clock"
  | 15 => "Terminated"
  | 16 => "Stack fault"
  | 24 => "CPU time limit exceeded"
  | 25 => "File size limit exceeded"
  | 26 => "Virtual timer expired"
  | 27 => "Profiling timer expired"
  | 29 => "I/O possible"
  | 30 => "Power failure"
  | 31 => "Bad system call"
  | signal => if signal < 34 then "" else "Real-time signal " ++ toString (signal - 34)

/-- Shows what is to be done at the end and about signals. -/
def showTraps : Act Unit := do
  let traps := (← get).traps
  let lines := signalNames.filterMap fun name =>
    (traps.lookup name).map fun action => "trap -- " ++ quotedWord action ++ " " ++ name ++ "\n"
  Act.print (String.join lines)

/-- Says what is to be done at the end and about signals, if anything is. -/
def setTraps (action : Option String) : List String → Act Unit
  | [] => Act.finish 0
  | word :: words => do
    match signal? 0 word with
    | none =>
      let _ ← Act.write 2 ("trap: " ++ word ++ ": bad trap\n")
      Act.finish 1
    | some signal =>
      let name := signalName signal
      modify fun state =>
        let others := state.traps.filter (·.1 != name)
        { state with traps := (action.map fun action => (name, action)).toList ++ others }
      setTraps action words

/-- Runs the command that says what is to be done at the end and about signals. -/
def runTrap (words : List String) : Act Unit := do
  let (_, words) ← Act.options "" "" words
  match words with
  | [] => showTraps
  | [word] => setTraps none [word]
  | action :: words =>
    -- A number in the place of the action is one more signal.
    if action ≠ "" && action.toList.all Char.isDigit then setTraps none (action :: words)
    else setTraps (if action = "-" then none else some action) words

/-- Takes a signal as it was said to be taken. -/
def takeSignal (signal : Nat) : Act Unit := do
  let state ← get
  match state.traps.lookup (signalName signal) with
  | some action =>
    if signal = 9 then throw (.killed state.process signal)
    unless action = "" do modify ({ · with pending := state.pending ++ [action] })
  | none => unless quietSignals.contains signal do throw (.killed state.process signal)

/-- Takes the signals that shells inside this one have sent to it. -/
def takeSignals : Act Unit := do
  let state ← get
  if state.level = 0 then
    let own := state.sent.filter (·.1 == state.process)
    set { state with sent := state.sent.filter (·.1 != state.process) }
    own.forM fun (_, signal) => takeSignal signal

/-- Sends a signal to a process, and tells whether there is such a process. -/
def sendSignal (signal process : Nat) : Act Bool := do
  let state ← get
  if process = state.process && state.level = 0 then
    takeSignal signal
    return true
  else if state.ended.any (·.1 == process) then return true
  else if state.shells.contains process then
    -- The shells around this one take a signal when it has ended.
    set { state with sent := state.sent ++ [(process, signal)] }
    return true
  else return false

/-- Sends a signal to processes. -/
def sendSignals (signal : Nat) : List String → Bool → Act Unit
  | [], success => Act.finishWith success
  | word :: words, success => do
    let isGroup := word.startsWith "-"
    let process ← Act.count (if isGroup then String.ofList (word.toList.drop 1) else word)
    let isThere ← if isGroup then pure false else sendSignal signal process
    if isThere then sendSignals signal words success
    else
      Act.complain "No such process\n"
      sendSignals signal words false

/-- Shows the names of signals. -/
def showSignals : List String → Act Unit
  | [] => Act.print (String.join ((("0" :: signalNames.tail).map (· ++ "\n"))))
  | word :: _ => do
    let number ← Act.count word
    let signal := if 128 < number then number - 128 else number
    if 0 < signal && signal < signalNames.length then Act.print (signalName signal ++ "\n")
    else Act.abort ("invalid signal number or exit status: " ++ word)

/-- Runs the command that sends signals. -/
def runKill (words : List String) : Act Unit := do
  let usage : Act Unit :=
    Act.abort ("Usage: kill [-s sigspec | -signum | -sigspec] [pid | job]... or\n" ++
      "kill -l [exitstatus]")
  let send := fun (signal : Nat) (words : List String) =>
    if words = [] then usage else sendSignals signal words true
  match words with
  | [] => usage
  | word :: rest =>
    if !word.startsWith "-" then send 15 words
    else
      match signal? 1 (String.ofList (word.toList.drop 1)) with
      | some signal => send signal rest
      | none =>
        let (options, rest) ← Act.options "s" "l" words
        if options.any (·.1 == 'l') then showSignals rest
        else
          match options.getLast? with
          | none => send 15 rest
          | some (_, name) =>
            match signal? 1 name with
            | some signal => send signal rest
            | none => Act.abort ("invalid signal number or name: " ++ name)

end AuditStage.Shell
