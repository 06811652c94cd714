import AuditStage.Shell.State

/-! The files and directories that a shell reaches, and the streams that it opens on them. -/

namespace AuditStage.Shell

namespace State

/-- The location that a path leads to. -/
def locate (state : State) (path : String) : Except SystemError Location :=
  state.disk.resolve (characterText path)

/-- What a path leads to. -/
def entryAt? (state : State) (path : String) : Option Entry :=
  match state.locate path with
  | .ok location => state.disk.entryAt? location
  | .error _ => none

/-- Whether a path leads to a directory. -/
def isDirectory (state : State) (path : String) : Bool :=
  state.entryAt? path == some .directory

/-- Whether a path leads to a device. -/
def isDevice (state : State) (path : String) : Bool :=
  match state.locate path with
  | .ok location => devices.contains location
  | .error _ => false

/-- Whether a path leads to a file that is a program. -/
def isProgram (state : State) (path : String) : Bool :=
  match state.locate path with
  | .ok location => state.programs.contains location
  | .error _ => false

/-- The paths of a name in the directories for programs. -/
def programPaths (state : State) (name : String) : List String :=
  (((state.value? "PATH").getD "").toList.splitOn ':').map fun directory =>
    if directory = [] then name else String.ofList directory ++ "/" ++ name

/-- The path of the first directory for programs that has one of the given name. -/
def findProgram? (state : State) (name : String) : Option String :=
  (state.programPaths name).find? state.isProgram

/-- The absolute path without dots that a path means when it is read from the directory. -/
def absolute (state : State) (path : String) : String :=
  let steps := (Path.components (Path.join state.directory path)).foldl (fun steps step =>
    match step with
    | .name _ => steps ++ [step]
    | .up => steps.dropLast
    | _ => steps) []
  Path.ofComponents (.root :: steps)

/-- The stream that a path stands for. -/
def streamAt? (path : String) : Option Nat :=
  match path with
  | "/dev/stdin" => some 0
  | "/dev/stdout" => some 1
  | "/dev/stderr" => some 2
  | path =>
    if path.startsWith "/dev/fd/" then count? (String.ofList (path.toList.drop 8)) else none

/-- The channel on a file, which may have to be made or emptied, and the disk then. -/
def openFile (state : State) (opening : Opening) (path : String) :
    Except SystemError (Channel × Disk) := do
  let path := characterText path
  let disk := state.disk
  let device := fun (location : Location) =>
    if location = ["dev", "full"] && opening ≠ .read then Channel.full else Channel.nothing
  match opening with
  | .read =>
    let location ← disk.resolve path
    if devices.contains location then return (device location, disk)
    else return (.file location 0 opening, disk)
  | _ =>
    let route ← Disk.route? path
    let location ← disk.writeGoal Disk.linkLimit (disk.start route) route
    if devices.contains location then return (device location, disk)
    else
      match disk.entryAt? location, opening with
      | some (.file _), .append | some (.file _), .both => return (.file location 0 opening, disk)
      | some (.file _), .write =>
        if state.isOn 'C' then throw .exists_
        else return (.file location 0 opening, disk.put location (.file ""))
      | _, _ => return (.file location 0 opening, disk.put location (.file ""))

end State

/-- Where a stream is to go. -/
inductive Direction where
  | file (stream : Nat) (opening : Opening) (path : String)
  | copy (stream source : Nat)
  | close (stream : Nat)
  | text (stream : Nat) (text : String)
  /-- What the stream was to read has no value. -/
  | broken

/-- Why a file could not be opened, in the words that the shell has for it. -/
def openFault (opening : Opening) (path : String) (error : SystemError) : String :=
  let missing := error = .notFound || error = .notDirectory
  let reason :=
    if !missing then error.reason
    else if opening = .read then "No such file" else "Directory nonexistent"
  (if opening = .read then "cannot open " else "cannot create ") ++ path ++ ": " ++ reason

namespace Act

/-- Lets a stream go where another one goes, and tells whether that could be done. -/
def copyStream (stream source : Nat) : Act Bool := do
  let state ← get
  match state.channel? source with
  | some channel =>
    set (state.withStream stream (some channel))
    return true
  | none =>
    -- The stream for complaints is closed already when it is the one to be changed.
    unless stream = 2 do complain (toString source ++ ": Bad file descriptor")
    return false

/-- Opens a stream on a new channel. -/
def openStream (stream : Nat) (channel : Channel) : Act Unit := do
  let channel ← addChannel channel
  modify (·.withStream stream (some channel))

/-- Lets a stream go where it is to go, and tells whether that could be done. -/
def redirect (direction : Direction) : Act Bool := do
  match direction with
  | .file stream opening path =>
    match State.streamAt? path with
    | some source => copyStream stream source
    | none =>
      match (← get).openFile opening path with
      | .ok (channel, disk) =>
        modify ({ · with disk })
        openStream stream channel
        return true
      | .error error =>
        complain (openFault opening path error)
        return false
  | .copy stream source => copyStream stream source
  | .close stream =>
    modify (·.withStream stream none)
    return true
  | .text stream text =>
    openStream stream (.source text.toList)
    return true
  | .broken => return false

/-- Lets streams go where they are to go, and tells whether that could be done. -/
def redirectAll : List Direction → Act Bool
  | [] => return true
  | direction :: directions => do
    if ← redirect direction then redirectAll directions else return false

end Act

/-- The names in a directory that a pattern fits, in order. -/
def State.namesFitting (state : State) (directory : String) (pattern : Pattern) : List String :=
  match state.locate (if directory = "" then "." else directory) with
  | .error _ => []
  | .ok location =>
    let names := (state.disk.children location).map fun (name, _) => octetText name
    -- A dot in front has to be in the pattern.
    let names := "." :: ".." :: names
    let shown := names.filter fun name =>
      pattern.fits name.toList &&
        (!name.startsWith "." || pattern.head? == some (.exactly '.'))
    shown.mergeSort fun a b => decide (a ≤ b)

/-- The paths behind a directory that a pattern for each step fits. -/
def State.pathsFitting (state : State) (directory : String) : List (List PatternChar) → List String
  | [] => [directory]
  | step :: steps =>
    let pattern := Pattern.parse step
    let isLast := steps.isEmpty
    let plain := String.ofList (step.map Prod.fst)
    let names := if pattern.isOpen then state.namesFitting directory pattern else [plain]
    names.flatMap fun name =>
      let path := directory ++ name
      let isThere := name = "" || (state.disk.ownEntry? (characterText path)).isSome
      if !isThere then []
      else if isLast then [path]
      else if name = "" || state.isDirectory path then state.pathsFitting (path ++ "/") steps
      else []

/-- The steps of a path that may have patterns in it. -/
def patternSteps : List PatternChar → List (List PatternChar)
  | [] => [[]]
  | item :: rest =>
    if item.1 = '/' then [] :: patternSteps rest
    else
      match patternSteps rest with
      | [] => [[item]]
      | step :: steps => (item :: step) :: steps

/-- The words that a field stands for: the paths that it fits as a pattern, or itself. -/
def State.pathsOf (state : State) (field : List Glyph) : List String :=
  let text := textOf field
  let chars := patternChars field
  let isOpen := chars.any fun (c, quoted) => !quoted && (c == '*' || c == '?' || c == '[')
  if state.isOn 'f' || !isOpen then [text]
  else
    match state.pathsFitting "" (patternSteps chars) with
    | [] => [text]
    | paths => paths

end AuditStage.Shell
