import AuditStage.Disk.Action
import AuditStage.Shell.Fields
import AuditStage.Shell.Number
import AuditStage.Shell.Script

/-! The state of a running shell: its variables, its streams, and what it can reach on the disk. -/

namespace AuditStage.Shell

/-- A text whose characters are octets, for a text of characters. -/
def octetText (text : String) : String :=
  String.ofList ((Text.encodeUtf8 text.toList).map Char.ofNat)

/-- The text of characters that octets stand for. -/
def characterText (octets : String) : String :=
  String.ofList (Text.decodeUtf8Lossy (octets.toList.map Char.toNat))

/-- Why a script stops before its last command. -/
inductive Stop where
  | exited (code : Nat)
  /-- Another program has run in place of the shell. -/
  | replaced (code : Nat)
  /-- A command has complained in a way that ends the script. -/
  | failed
  | killed (process signal : Nat)
  /-- A loop is left, or started again, behind as many inner loops. -/
  | left (again : Bool) (loops : Nat)
  /-- A function is left. -/
  | returned (code : Nat)
  /-- The steps granted to the script have run out. -/
  | endless
deriving Repr, DecidableEq

/-- What a stream is open on. -/
inductive Channel where
  /-- Nothing can be read, and what is written is lost. -/
  | nothing
  /-- Nothing can be written. -/
  | full
  | collector (text : String)
  /-- A collector that nobody reads any more once so many texts more have been written. -/
  | pipe (text : String) (more : Nat)
  | source (rest : List Char)
  | file (location : Location) (position : Nat) (opening : Opening)

/-- A variable, which may be declared without a value. -/
structure Variable where
  value : Option String
  exported : Bool
  readOnly : Bool
deriving Repr, DecidableEq

/-- A running shell; its texts hold an octet in each character. -/
structure State where
  /-- The name under which the shell complains. -/
  name : String
  /-- The built-in command that runs, if one does. -/
  command : Option String
  /-- The line of the command that runs. -/
  line : Nat
  /-- The line that the reading of the script has come to. -/
  reading : Nat
  arguments : List String
  settings : List (String × Variable)
  functions : List (String × Script)
  options : List Char
  /-- What is to be done at the end, or when a signal comes. -/
  traps : List (String × String)
  /-- How the last command ended. -/
  status : Nat
  /-- How the last command ended whose output became part of a word. -/
  substituted : Option Nat
  /-- The directory as the way there was named. -/
  directory : String
  disk : Disk
  /-- The places of the files that are programs. -/
  programs : List Location
  /-- The numbered streams that are open, each with the number of its channel. -/
  streams : List (Nat × Nat)
  channels : Array Channel
  inlined : Array (List Piece)
  process : Nat
  /-- The process that the next program is. -/
  nextProcess : Nat
  /-- The processes of this shell and of those around it. -/
  shells : List Nat
  /-- How many parts of the script run in shells of their own around this one. -/
  level : Nat
  /-- The signals on their way, each with the process that it goes to. -/
  sent : List (Nat × Nat)
  /-- The processes that nobody waits for, the newest first, and how they ended. -/
  ended : List (Nat × Nat)
  /-- How many loops are running in the function that runs. -/
  loops : Nat
  /-- What the variables of the running functions were before. -/
  hidden : List (List (String × Option Variable))
  /-- The next argument that may be an option, counted from one. -/
  place : Nat
  /-- How far into a group of letters the reading of options has come. -/
  letter : Nat
  /-- What is to be done because signals have come. -/
  pending : List String
  /-- How the shell will end once it has done what is to be done at the end. -/
  leaving : Option Nat

/-- A part of a script: it may change the shell and may stop it. -/
abbrev Act := EStateM Stop State

/-- Where devices lie. -/
def devices : List Location :=
  ["null", "zero", "full", "random", "urandom", "tty"].map fun name => ["dev", name]

namespace Channel

/-- What can still be read. -/
def unread (disk : Disk) : Channel → Option (List Char)
  | .nothing => some []
  | .source rest => some rest
  | .file location position opening =>
    match opening, disk.entryAt? location with
    | .write, _ | .append, _ => none
    | _, some (.file content) => some (content.toList.drop position)
    | _, _ => some []
  | .full | .collector _ | .pipe _ _ => none

/-- The channel when all but the given rest has been read. -/
def reading (disk : Disk) (rest : List Char) : Channel → Channel
  | .source _ => .source rest
  | .file location position opening =>
    match disk.entryAt? location with
    | some (.file content) => .file location (content.length - rest.length) opening
    | _ => .file location position opening
  | channel => channel

/-- The channel and the disk after a text has been written, if it can be. -/
def writing (disk : Disk) (text : String) : Channel → Option (Channel × Disk)
  | .nothing => some (.nothing, disk)
  | .collector before => some (.collector (before ++ text), disk)
  | .pipe before more => some (.pipe (before ++ text) (more - 1), disk)
  | .file location position opening =>
    match opening, disk.entryAt? location with
    | .read, _ => none
    | _, some (.file content) =>
      let before := content.toList
      let position := if opening = .append then before.length else position
      let gap := List.replicate (position - before.length) '\x00'
      let after :=
        before.take position ++ gap ++ text.toList ++ before.drop (position + text.length)
      some (.file location (position + text.length) opening,
        disk.put location (.file (String.ofList after)))
    | _, _ => some (.file location (position + text.length) opening, disk)
  | .full | .source _ => none

end Channel

namespace State

/-- The channel of a stream. -/
def channel? (state : State) (stream : Nat) : Option Nat :=
  state.streams.lookup stream

/-- The shell with a stream open on a channel, or closed. -/
def withStream (state : State) (stream : Nat) (channel : Option Nat) : State :=
  let others := state.streams.filter (·.1 != stream)
  { state with streams := (channel.map fun channel => (stream, channel)).toList ++ others }

/-- The text of a variable, unless it is not set. -/
def value? (state : State) (name : String) : Option String :=
  (state.settings.lookup name).bind Variable.value

/-- The shell with a variable put in place of one of the same name, or without one. -/
def withVariable (state : State) (name : String) (variable_ : Option Variable) : State :=
  let others := state.settings.filter (·.1 != name)
  { state with settings := (variable_.map fun variable_ => (name, variable_)).toList ++ others }

/-- The characters that divide fields. -/
def dividers (state : State) : List Char :=
  match state.settings.lookup "IFS" with
  | some ⟨some text, _, _⟩ => text.toList
  | _ => [' ', '\t', '\n']

/-- Whether an option of the shell is on. -/
def isOn (state : State) (option : Char) : Bool :=
  state.options.contains option

end State

/-- The signal that ends who writes what nobody reads. -/
def brokenPipe : Nat :=
  13

/-- How many texts can be written before it counts that nobody reads them. -/
def pipeLimit : Nat :=
  30000

namespace Act

/-- Writes a text to a stream, and tells whether that could be done. -/
def write (stream : Nat) (text : String) : Act Bool := fun state =>
  if text = "" then .ok true state else
  match state.channel? stream with
  | none => .ok false state
  | some index =>
    match state.channels[index]? with
    | none => .ok false state
    | some (.collector before) =>
      -- The text is taken out of its place first, so that it can grow where it is.
      let channels := state.channels.setIfInBounds index .nothing
      .ok true { state with channels := channels.setIfInBounds index (.collector (before ++ text)) }
    | some (.pipe _ 0) => .error (.replaced (128 + brokenPipe)) state
    | some (.pipe before (more + 1)) =>
      let channels := state.channels.setIfInBounds index .nothing
      let channel := Channel.pipe (before ++ text) more
      .ok true { state with channels := channels.setIfInBounds index channel }
    | some channel =>
      match channel.writing state.disk text with
      | some (channel, disk) =>
        .ok true { state with channels := state.channels.setIfInBounds index channel, disk }
      | none => .ok false state

/-- Writes a complaint. -/
def complain (text : String) : Act Unit := do
  let state ← get
  let command := (state.command.map (· ++ ": ")).getD ""
  let _ ← write 2 (state.name ++ ": " ++ toString state.line ++ ": " ++ command ++ text ++ "\n")

/-- Ends a command with the given status. -/
def finish (status : Nat) : Act Unit :=
  modify ({ · with status })

/-- Ends a command with success or failure. -/
def finishWith (success : Bool) : Act Unit :=
  finish (if success then 0 else 1)

/-- Ends a command that complains. -/
def refuse (status : Nat) (text : String) : Act Unit := do
  complain text
  finish status

/-- Stops a script with a complaint. -/
def abort {α : Type} (text : String) : Act α := do
  complain text
  throw .failed

/-- Writes the output of a command, and ends it. -/
def print (text : String) : Act Unit := do
  if ← write 1 text then finish 0
  else
    let command := ((← get).command.map (· ++ ": ")).getD ""
    refuse 1 (command ++ "I/O error")

/-- All that can still be read from a stream, if it can be read at all. -/
def readAll (stream : Nat) : Act (Option (List Char)) := fun state =>
  match (state.channel? stream).bind fun index => (state.channels[index]?).map (index, ·) with
  | none => .ok none state
  | some (index, channel) =>
    match channel.unread state.disk with
    | none => .ok none state
    | some rest =>
      let channel := channel.reading state.disk []
      .ok (some rest) { state with channels := state.channels.setIfInBounds index channel }

/-- Gives back what was read too far. -/
def unread (stream : Nat) (rest : List Char) : Act Unit :=
  modify fun state =>
    match (state.channel? stream).bind fun index => (state.channels[index]?).map (index, ·) with
    | none => state
    | some (index, channel) =>
      let channel := channel.reading state.disk rest
      { state with channels := state.channels.setIfInBounds index channel }

/-- Opens a new channel, and tells its number. -/
def addChannel (channel : Channel) : Act Nat :=
  modifyGet fun state =>
    (state.channels.size, { state with channels := state.channels.push channel })

/-- The text of a variable, unless it is not set. -/
def value? (name : String) : Act (Option String) := do
  return (← get).value? name

/-- Sets a variable, unless it may only be read. -/
def assign (name value : String) : Act Unit := do
  let state ← get
  let old := (state.settings.lookup name).getD ⟨none, false, false⟩
  if old.readOnly then abort (name ++ ": is read only")
  else
    let exported := old.exported || state.isOn 'a'
    set (state.withVariable name (some { old with value := some value, exported }))
    -- Options are read from the start again when their place is set.
    if name = "OPTIND" then
      modify ({ · with place := max ((count? value).getD 1) 1, letter := 0 })

/-- Runs a part of a script, and then lets the streams go where they went before. -/
def keepingStreams (act : Act Unit) : Act Unit := fun state =>
  let back := fun (after : State) => { after with streams := state.streams }
  match act state with
  | .ok _ after => .ok () (back after)
  | .error stop after => .error stop (back after)

end Act

/-- The process that a script runs in at first. -/
def firstProcess : Nat :=
  4242

end AuditStage.Shell
