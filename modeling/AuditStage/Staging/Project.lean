import AuditStage.Disk.Action
import AuditStage.Staging.Key

/-! A staged project: where its files lie, and which library packages stand beside them. -/

namespace AuditStage

/-- Where a run stages its files. -/
structure Layout where
  /-- The directory that is cleared and built anew. -/
  stagingRoot : String
  /-- The directory that holds one directory for each library package. -/
  dependencyRoot : String
deriving Repr, DecidableEq

namespace Layout

/-- The name of the dependency root inside a staging root. -/
def dependencyName : String :=
  "node_modules"

/-- The layout with the dependency root inside the staging root. -/
def nested (stagingRoot : String) : Layout :=
  ⟨stagingRoot, Path.join stagingRoot dependencyName⟩

end Layout

/-- A source key and the path at which its file is staged. -/
structure StagedFile where
  key : String
  path : String
  /-- The library package that the file belongs to, if it belongs to one. -/
  package : Option String
deriving Repr, DecidableEq

/-- A project on disk. -/
structure Project where
  stagingRoot : String
  dependencyRoot : String
  /-- Whether the dependency root was a directory before library files were staged in it. -/
  preexisted : Bool
  files : List StagedFile
  libraries : List String
deriving Repr, DecidableEq

namespace Project

/-- The path at which the file of a key is staged. -/
def pathOf? (project : Project) (key : String) : Option String :=
  (project.files.find? (·.key == key)).map (·.path)

/-- Whether the dependency root lies inside the staging root. -/
def isNested (project : Project) : Bool :=
  Path.isBelow project.dependencyRoot project.stagingRoot

/-- The directories that the compiler may read from, as one argument. -/
def allowedPaths (project : Project) : String :=
  let outer := if project.isNested then [] else [project.dependencyRoot]
  ",".intercalate (["."] ++ [project.stagingRoot] ++ outer)

/-- The regular files below a location, by the names that lead to them. -/
def regularBelow (disk : Disk) (location : Location) : List Location :=
  (disk.below location).filterMap fun item =>
    match item.2 with
    | .file _ => some item.1
    | _ => none

/-- The regular files now under the staging root, in the order of their paths. -/
def filesOnDisk (project : Project) (disk : Disk) : List String :=
  let root := project.stagingRoot
  match disk.ownEntry? root with
  | some (.file _) => [root]
  | _ =>
    match disk.resolve root with
    | .error _ => []
    | .ok location =>
      if disk.entryAt? location = some .directory then
        let paths := (regularBelow disk location).map fun names => names.foldl Path.join root
        paths.mergeSort Path.le
      else []

end Project

end AuditStage
