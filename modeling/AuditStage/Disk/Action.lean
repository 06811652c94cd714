import AuditStage.Disk.Walk

/-! What a program does to a disk: making, writing, removing and listing, as the system does it. -/

namespace AuditStage.Disk

/-- An operation that may change the disk and may fail, also after it has changed it. -/
abbrev Action := EStateM SystemError Disk

/-- Whether a path leads to a directory. -/
def isDirectory (disk : Disk) (path : String) : Bool :=
  match disk.resolve path with
  | .ok location => disk.entryAt? location == some .directory
  | .error _ => false

/-- Whether a path leads to a file. -/
def isFile (disk : Disk) (path : String) : Bool :=
  match disk.resolve path with
  | .ok location =>
    match disk.entryAt? location with
    | some (.file _) => true
    | _ => false
  | .error _ => false

/-- The disk with a new directory at a path. -/
def withDirectory (disk : Disk) (path : String) : Except SystemError Disk := do
  let route ← route? path
  match ← disk.goal linkLimit (disk.start route) route.steps with
  | .unnamed _ _ => .error .exists_
  | .named parent name =>
    match disk.entryAt? (parent ++ [name]) with
    | some _ => .error .exists_
    | none => .ok (disk.put (parent ++ [name]) .directory)

/-- Where writing to a route ends up: a free or taken file location, through links. -/
def writeGoal (disk : Disk) (links : Nat) (start : Location) (route : Route) :
    Except SystemError Location :=
  -- A slash at the end asks for a directory, whatever name stands before it.
  if route.trailing then do
    let parent ← disk.walk links start route.steps.dropLast
    .error (if disk.entryAt? parent = some .directory then .isDirectory else .notDirectory)
  else
    match reached : disk.approach links start route.steps with
    | .error error => .error error
    | .ok (.unnamed _ _, _) => .error .isDirectory
    | .ok (.named parent name, spare) =>
      match disk.entryAt? (parent ++ [name]) with
      | none | some (.file _) => .ok (parent ++ [name])
      | some .directory => .error .isDirectory
      | some (.link target) =>
        -- The link at the end counts like those on the way to it.
        match spare, spare_le_of_approach reached with
        | 0, _ => .error .tooManyLinks
        | spare + 1, _ =>
          let route := Route.ofPath target
          disk.writeGoal spare (if route.absolute then [] else parent) route
  termination_by links

/-- The disk with a file of the given content at a path, in place of a file that is there. -/
def withFile (disk : Disk) (path content : String) : Except SystemError Disk := do
  let route ← route? path
  let location ← disk.writeGoal linkLimit (disk.start route) route
  .ok (disk.put location (.file content))

/-- The content of the file that a path leads to. -/
def content (disk : Disk) (path : String) : Except SystemError String := do
  let location ← disk.resolve path
  match disk.entryAt? location with
  | some (.file text) => .ok text
  | _ => .error .isDirectory

/-- The path without links, dots or doubled slashes that leads where a path leads. -/
def canonical (disk : Disk) (path : String) : Except SystemError String := do
  let location ← disk.resolve path
  .ok (Path.ofNames location)

/-- The names and entries inside the directory that a path leads to. -/
def listing (disk : Disk) (path : String) : Except SystemError (List (String × Entry)) := do
  let location ← disk.resolve path
  if disk.entryAt? location = some .directory then .ok (disk.children location)
  else .error .notDirectory

/-- Runs an operation that either succeeds with a new disk or leaves the disk as it is. -/
def attempt (change : Disk → Except SystemError Disk) : Action Unit := fun disk =>
  match change disk with
  | .ok disk => .ok () disk
  | .error error => .error error disk

/-- Whether a path cannot be made a directory because something on the way to it is missing. -/
def lacksAbove (disk : Disk) (path : String) : Bool :=
  match disk.withDirectory path with
  | .ok _ => false
  | .error error => error = .notFound

/-- Makes a path a directory if it is none yet. -/
def makeDirectory (path : String) : Action Unit := fun disk =>
  match disk.withDirectory path with
  | .ok disk => .ok () disk
  | .error error => if disk.isDirectory path then .ok () disk else .error error disk

/-- Makes the first of the paths a directory, and before it the paths above that are missing. -/
def makeAll : List String → Action Unit
  | [] => throw (.described "failed to create whole tree")
  | path :: above =>
    if path = "" then pure ()
    else do
      let disk ← get
      if disk.lacksAbove path then makeAll above
      makeDirectory path

/-- Makes a path a directory together with all that is missing above it. -/
def makeDirectories (path : String) : Action Unit :=
  makeAll (path :: Path.pathsAbove path)

/-- Makes the path above a path a directory, if there is one, together with all that is missing above
that. -/
def makeAbove (path : String) : Action Unit :=
  match Path.pathsAbove path with
  | [] => pure ()
  | parent :: _ => makeDirectories parent

/-- Writes a file, making the directories above it first. -/
def writeFile (path content : String) : Action Unit := do
  makeAbove path
  attempt fun disk => disk.withFile path content

/-- The disk with a new link to a target at a path. -/
def withLink (disk : Disk) (path target : String) : Except SystemError Disk := do
  -- A target need not lead anywhere, but it has to be a path that the system accepts.
  let _ ← route? target
  let route ← route? path
  match ← disk.goal linkLimit (disk.start route) route.steps with
  | .unnamed _ _ => .error .exists_
  | .named parent name =>
    match disk.entryAt? (parent ++ [name]) with
    | some _ => .error .exists_
    | none =>
      if route.trailing then .error .notFound
      else .ok (disk.put (parent ++ [name]) (.link target))

/-- Makes a link, making the directories above it first. -/
def makeLink (path target : String) : Action Unit := do
  makeAbove path
  attempt fun disk => disk.withLink path target

/-- The disk without the file or link that a path names. -/
def withoutFile (disk : Disk) (path : String) : Except SystemError Disk := do
  let route ← route? path
  match ← disk.goal linkLimit (disk.start route) route.steps with
  | .unnamed _ _ => .error .isDirectory
  | .named parent name =>
    match disk.entryAt? (parent ++ [name]) with
    | none => .error .notFound
    | some .directory => .error .isDirectory
    | some _ => if route.trailing then .error .notDirectory else .ok (disk.erase (parent ++ [name]))

/-- The disk without the empty directory that a path names. -/
def withoutDirectory (disk : Disk) (path : String) : Except SystemError Disk := do
  let route ← route? path
  match ← disk.goal linkLimit (disk.start route) route.steps with
  | .unnamed _ none => .error .busy
  | .unnamed _ (some step) => .error (if step = "." then .invalid else .notEmpty)
  | .named parent name =>
    match disk.entryAt? (parent ++ [name]) with
    | none => .error .notFound
    | some .directory =>
      if (disk.children (parent ++ [name])).isEmpty then .ok (disk.erase (parent ++ [name]))
      else .error .notEmpty
    -- A slash after the name of a link leads into a directory but does not name it.
    | some _ => .error .notDirectory

/-- The location that a path names; only a slash at its end leads on through a link. -/
def ownLocation (disk : Disk) (path : String) : Except SystemError Location := do
  let route ← route? path
  if route.trailing then disk.walk linkLimit (disk.start route) route.allSteps
  else (disk.goal linkLimit (disk.start route) route.steps).map Goal.location

/-- Removes a directory and everything in it; a link is removed and not followed. -/
def removeTree (path : String) : Action Unit := fun disk =>
  match disk.ownLocation path with
  | .error error => .error error disk
  | .ok location =>
    match disk.entryAt? location with
    | none => .error .notFound disk
    | some (.link _) => .ok () (disk.erase location)
    | some (.file _) => .error .notDirectory disk
    | some .directory =>
      -- The path is followed once more, and may be gone with what lay in the directory.
      let emptied := disk.eraseBelow location
      match emptied.withoutDirectory path with
      | .ok disk => .ok () disk
      | .error error => if error = .notFound then .ok () emptied else .error error emptied

/-- Removes a directory and everything in it, if it is there. -/
def clear (path : String) : Action Unit := fun disk =>
  match removeTree path disk with
  | .ok _ disk => .ok () disk
  | .error error disk => if error = .notFound then .ok () disk else .error error disk

/-- Removes what a path names: a file or link, else a whole directory. -/
def remove (path : String) : Action Unit := fun disk =>
  match disk.withoutFile path with
  | .ok disk => .ok () disk
  | .error _ => removeTree path disk

end AuditStage.Disk
