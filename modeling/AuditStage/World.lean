import AuditStage.Disk.Action
import AuditStage.Explorer.Source
import AuditStage.Log

/-! What a run can see and change: the disk, the explorer, the tools, and its own record. -/

namespace AuditStage

/-- A step in the analysis of the files, as it is told to an observer. -/
inductive Event where
  | started (key : String) (index total : Nat)
  /-- The output is missing when the analyzer could not be run. -/
  | finished (key : String) (output : Option String)
deriving Repr, DecidableEq

/-- A question that the explorer was asked, and what came of it. -/
structure Inquiry where
  address : String
  /-- The HTTP requests that were sent for it: the first one, and those that replies led on to. -/
  requests : List HttpRequest
  reply : ExplorerReply

/-- A command that was to be run, what it found, and what came of it. -/
structure Launch where
  command : Command
  /-- Whether the command found its program. -/
  started : Bool
  reply : ToolReply
  /-- The compiler version that was in place. -/
  active : Option String
  /-- The disk that the command found. -/
  disk : Disk

/-- Everything that a run reads from and writes to. -/
structure World where
  disk : Disk
  explorer : Explorer
  tools : Tools
  /-- The compiler version that was put in place last. -/
  active : Option String
  /-- The log, oldest record first. -/
  log : List LogRecord
  inquiries : List Inquiry
  launches : List Launch
  events : List Event

/-- A part of a run: it may change the world and may fail, also after it has changed it. -/
abbrev Run := EStateM Failure World

namespace World

/-- A world with the given disk, explorer and tools in which nothing has happened yet. -/
def fresh (disk : Disk) (explorer : Explorer) (tools : Tools) : World :=
  ⟨disk, explorer, tools, none, [], [], [], []⟩

/-- The world with an empty record of what happened. -/
def quiet (world : World) : World :=
  { world with log := [], inquiries := [], launches := [], events := [] }

/-- The addresses that the explorer was asked for. -/
def asked (world : World) : List String :=
  world.inquiries.map (·.address)

/-- The HTTP requests that were sent. -/
def requests (world : World) : List HttpRequest :=
  world.inquiries.flatMap (·.requests)

/-- The commands that were to be run. -/
def commands (world : World) : List Command :=
  world.launches.map (·.command)

/-- The commands that found their program. -/
def started (world : World) : List Command :=
  (world.launches.filter (·.started)).map (·.command)

/-- Why a command cannot be started, if it cannot. -/
def commandFault? (world : World) (command : Command) : Option SystemError :=
  match world.tools.programs with
  | none => none
  | some programs =>
    command.fault?.or <|
      match (command.directory.map world.disk.enter).getD (.ok world.disk) with
      | .error error => some error
      | .ok disk => disk.programFault? programs command.program

end World

namespace Run

/-- Adds a record to the log. -/
def note (level : Level) (text : String) : Run Unit :=
  modify fun world => { world with log := world.log ++ [⟨level, text⟩] }

/-- Tells an observer about a step. -/
def tell (event : Event) : Run Unit :=
  modify fun world => { world with events := world.events ++ [event] }

/-- Does something to the disk. -/
def onDisk {α : Type} (action : Disk.Action α) : Run α := fun world =>
  match action world.disk with
  | .ok value disk => .ok value { world with disk }
  | .error error disk => .error (.io error) { world with disk }

/-- Reads something from the disk. -/
def fromDisk {α : Type} (read : Disk → Except SystemError α) : Run α := fun world =>
  match read world.disk with
  | .ok value => .ok value world
  | .error error => .error (.io error) world

/-- Runs a command and waits for it. -/
def command (command : Command) : Run ToolReply := fun world =>
  let (started, reply, tools) :=
    match world.commandFault? command with
    -- A command that cannot be started takes no reply.
    | some error => (false, .error error, world.tools)
    | none => (true, world.tools.run)
  let launch : Launch := ⟨command, started, reply, world.active, world.disk⟩
  .ok reply { world with tools, launches := world.launches ++ [launch] }

/-- Asks the explorer for an address. -/
def ask (address : String) : Run ExplorerReply := fun world =>
  let (reply, requests, explorer) := world.explorer.ask address
  .ok reply
    { world with explorer, inquiries := world.inquiries ++ [⟨address, requests, reply⟩] }

end Run

end AuditStage
