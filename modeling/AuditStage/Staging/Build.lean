import AuditStage.SourceMap
import AuditStage.Staging.Project
import AuditStage.World

/-! Building a project on disk from sources: the project's own files first, then the libraries. -/

namespace AuditStage.Staging

/-- Ends the run if a key leads out of the tree or names no file. -/
def requireStageable (keys : List String) : Run Unit :=
  match keys.find? (!Key.isStageable ·) with
  | some key => throw (.unsafePath key)
  | none => pure ()

/-- Makes a directory where there is none, and returns its canonical path. -/
def makeRoot (root : String) : Run String := do
  Run.onDisk (Disk.makeDirectories root)
  Run.fromDisk (·.canonical root)

/-- Clears a directory, or makes it, and returns its canonical path. -/
def resetRoot (root : String) : Run String := do
  Run.onDisk (Disk.clear root)
  makeRoot root

/-- The staged file that stands at a path already, by whatever text the path was written. -/
def ownerOf? (staged : List StagedFile) (path : String) : Option StagedFile :=
  staged.find? fun file => Path.components file.path == Path.components path

/-- Writes one file, unless another key stands at its path already. -/
def stageFile (staged : List StagedFile) (file : StagedFile) (content : String) :
    Run (List StagedFile) := do
  match ownerOf? staged file.path with
  | some owner => throw (.malformedSourceMap (.sharedPath owner.key file.key file.path))
  | none =>
    Run.onDisk (Disk.writeFile file.path content)
    return staged ++ [file]

/-- Stages the files that belong to no package. -/
def stageOwn (root : String) (sources : SourceMap) : Run (List StagedFile) :=
  sources.files.foldlM (fun staged (key, content) =>
    match Key.package? key with
    | some _ => pure staged
    | none => stageFile staged ⟨key, Path.join root key, none⟩ content) []

/-- Stages the files of one package in its directory. -/
def stagePackage (root : String) (sources : SourceMap) (staged : List StagedFile)
    (package : String) : Run (List StagedFile) := do
  let directory := Path.join root package
  Run.onDisk (Disk.makeDirectories directory)
  sources.files.foldlM (fun staged (key, content) =>
    if Key.package? key = some package then
      let path := Path.join directory (Key.withinPackage key package)
      stageFile staged ⟨key, path, some package⟩ content
    else pure staged) staged

/-- Makes the dependency root: its canonical path, and whether it was a directory before. -/
def openDependencyRoot (layout : Layout) (stagingRoot : String) : Run (String × Bool) := do
  let world ← get
  let preexisted := world.disk.isDirectory layout.dependencyRoot
  let root ← makeRoot layout.dependencyRoot
  if preexisted && !Path.isBelow root stagingRoot then
    Run.note .info ("Merging into existing dependency root " ++ root)
  return (root, preexisted)

/-- The directories in a dependency root that are packages by their names, in order. -/
def packagesFound (entries : List (String × Entry)) : List String :=
  let names := entries.filterMap fun (name, entry) =>
    if entry = .directory && name.toList.head? = some Key.packageMark then some name else none
  names.mergeSort fun a b => decide (a ≤ b)

/-- Staged files in the order of the keys. -/
def inOrder (keys : List String) (staged : List StagedFile) : List StagedFile :=
  keys.filterMap fun key => staged.find? (·.key == key)

/-- Stages the libraries beside the files that are staged already, and tells what has come about. -/
def finish (stagingRoot dependencyRoot : String) (preexisted : Bool) (sources : SourceMap)
    (staged : List StagedFile) : Run Project := do
  let packages := Key.packagesOf sources.keys
  let staged ← packages.foldlM (stagePackage dependencyRoot sources) staged
  let found ← Run.fromDisk (·.listing dependencyRoot)
  -- Packages that came with the dependency root stand behind those of the sources.
  let libraries := packages ++ (packagesFound found).filter (!packages.contains ·)
  let files := inOrder sources.keys staged
  Run.note .info ("Libraries detected: " ++ ", ".intercalate libraries)
  Run.note .info ("Staged " ++ toString files.length ++ " file(s) under " ++ stagingRoot)
  return ⟨stagingRoot, dependencyRoot, preexisted, files, libraries⟩

/-- Builds a project from sources; nothing of an earlier one is left under the staging root. -/
def build (layout : Layout) (sources : SourceMap) : Run Project := do
  requireStageable sources.keys
  let stagingRoot ← resetRoot layout.stagingRoot
  let staged ← stageOwn stagingRoot sources
  let (dependencyRoot, preexisted) ← openDependencyRoot layout stagingRoot
  finish stagingRoot dependencyRoot preexisted sources staged

end AuditStage.Staging
