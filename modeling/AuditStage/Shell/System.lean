import AuditStage.Command
import AuditStage.Shell.Run

/-! A system with its directories and programs, and what comes back from running one of them. -/

namespace AuditStage.Shell

/-- What a system has for its programs to see. -/
structure Host where
  /-- The disk, whose home is where programs run unless a command names another directory. -/
  disk : Disk
  /-- Where the programs lie. -/
  programs : List Location
  environment : List (String × String)

/-- The directories that every system has. -/
def systemDirectories : List String :=
  ["/boot", "/dev", "/dev/fd", "/dev/pts", "/dev/shm", "/etc", "/home", "/media", "/mnt", "/opt",
   "/proc", "/root", "/run", "/srv", "/sys", "/tmp", "/usr", "/usr/bin", "/usr/include", "/usr/lib",
   "/usr/local", "/usr/local/bin", "/usr/local/lib", "/usr/local/sbin", "/usr/local/share",
   "/usr/sbin", "/usr/share", "/usr/src", "/var", "/var/cache", "/var/lib", "/var/log", "/var/tmp"]

/-- The links that every system has, and where they lead. -/
def systemLinks : List (String × String) :=
  [("/bin", "usr/bin"), ("/sbin", "usr/sbin"), ("/lib", "usr/lib")]

/-- The files that every system has and that are no programs. -/
def systemFiles : List String :=
  ["/dev/null", "/dev/zero", "/dev/full", "/dev/random", "/dev/urandom", "/dev/tty", "/etc/fstab",
   "/etc/group", "/etc/hostname", "/etc/hosts", "/etc/passwd", "/etc/profile", "/etc/shadow",
   "/etc/shells"]

/-- The names of the programs that every system has. -/
def systemPrograms : List String :=
  ["[", "cat", "dash", "echo", "false", "kill", "printf", "pwd", "sh", "sleep", "test", "tr", "true"]

/-- The names that lead from the root to a path. -/
def locationOf (path : String) : Location :=
  Path.steps path

/-- A system with what every system has, and a directory to run programs in. -/
def Host.standard (directory : String) : Host :=
  let home := locationOf directory
  let directories := systemDirectories.map fun path => (locationOf path, Entry.directory)
  let links := systemLinks.map fun (path, target) => (locationOf path, Entry.link target)
  -- What the files say is not known, but that those for settings say something is.
  let content := fun (path : String) => if path.startsWith "/etc/" then "\n" else ""
  let files := systemFiles.map fun path => (locationOf path, Entry.file (content path))
  let programs := systemPrograms.map fun name => ["usr", "bin", name]
  let entries := directories ++ links ++ files ++ programs.map fun place => (place, Entry.file "")
  { disk := (entries ++ (Disk.atHome home).entries).foldl (fun disk item =>
      if (disk.entryAt? item.1).isSome then disk else disk.put item.1 item.2) (.blank home)
    programs
    environment := [("PATH", usualPath), ("HOME", "/root")] }

namespace Host

/-- Why a name stands for no program, if it does not. -/
def fault? (host : Host) (name : String) : Option SystemError :=
  if name.toList.contains '/' then
    match host.disk.resolve name with
    | .ok location => if host.programs.contains location then none else some .denied
    | .error error => some error
  else if name = "" then some .notFound
  -- The directories that programs are looked for in have these two names for themselves.
  else if name = "." || name = ".." then some .denied
  else if Disk.isLongName name then some .nameTooLong
  else if host.programs.any (·.getLast? == some name) then none
  else some .notFound

/-- A shell in which nothing has happened yet. -/
def state (host : Host) (name : String) : State :=
  let directory := octetText ("/" ++ "/".intercalate host.disk.home)
  let exported := fun ((name, value) : String × String) =>
    (name, (⟨some value, true, false⟩ : Variable))
  let system : State :=
    { name, command := none, line := 0, reading := 1, arguments := [],
      settings := (("PWD", directory) :: host.environment).map exported, functions := [],
      options := [], traps := [], status := 0, substituted := none, directory,
      disk := host.disk, programs := host.programs, streams := [(0, 0), (1, 1), (2, 2)],
      channels := #[.nothing, .collector "", .collector ""], inlined := #[],
      process := firstProcess - 1, nextProcess := firstProcess + 1, shells := [], level := 0,
      sent := [], ended := [], loops := 0, hidden := [], place := 1, letter := 0, pending := [],
      leaving := none }
  system.started name firstProcess

end Host

/-- How many steps a script may take one inside another. -/
def stepsGranted : Nat :=
  1000000

/-- What is left behind when a part of a script has come to its end. -/
def outputOf (act : Act Nat) (state : State) : CommandOutput :=
  let (code, after) :=
    match act state with
    | .ok code after => (some code, after)
    | .error _ after => (none, after)
  let text := fun (channel : Nat) =>
    match after.channels[channel]? with
    | some (.collector text) => characterText text
    | _ => ""
  -- The system keeps eight bits of a code.
  let code := code.map (· % 256)
  ⟨code == some 0, code.map Int.ofNat, text 1, text 2⟩

/-- The reply to a command: what its program leaves behind, or why it cannot be run. -/
def Host.run (host : Host) (command : Command) : ToolReply := do
  if let some error := command.fault? then throw error
  let disk ← (command.directory.map host.disk.enter).getD (.ok host.disk)
  let host := { host with disk }
  if let some error := host.fault? command.program then throw error
  let words := command.args.map octetText
  let name := octetText command.program
  let perform := fun (action : String) => runText stepsGranted false 1 action
  let act : Act Nat :=
    if ["sh", "dash"].contains (lastStep name) then
      Act.toEnd perform (startShell stepsGranted name words)
    else Act.outcome (runProgram stepsGranted name words)
  return outputOf act (host.state name)

end AuditStage.Shell
