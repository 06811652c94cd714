import AuditStage.Proofs.Remap.Targets
import AuditStage.Proofs.Staging.Stageable

/-! What the compiler may read: the directories that the command for a file opens to it, and that every
staged file and every package lie in one of them. -/

namespace AuditStage

/-- What lies below a path that lies below another lies below that one. -/
theorem Path.isBelow_trans {path middle base : String} (below : isBelow path middle = true)
    (further : isBelow middle base = true) : isBelow path base = true := by
  -- One path lies below another if it starts with all of its components.
  rw [isBelow, List.isPrefixOf_iff_prefix] at below further ⊢
  exact further.trans below

/-- A path with more names behind those of another lies below that one. -/
theorem Staging.LiesBelow.isBelow {path base : String} (below : LiesBelow path base) :
    Path.isBelow path base = true := by
  obtain ⟨names, -, -, spelled⟩ := below
  rw [Path.isBelow, List.isPrefixOf_iff_prefix, spelled]
  exact List.prefix_append _ _

namespace Project

/-- The directories that a project opens to the compiler: its staging root, and its dependency root unless
the components of that start with those of the staging root. -/
def openDirectories (project : Project) : List String :=
  project.stagingRoot ::
    if Path.components project.stagingRoot <+: Path.components project.dependencyRoot then []
    else [project.dependencyRoot]

/-- A path is open to the compiler: it lies at or below one of the open directories. -/
def Opens (project : Project) (path : String) : Prop :=
  ∃ directory ∈ project.openDirectories, Path.isBelow path directory = true

/-- The dependency root is nested exactly if its components start with those of the staging root. -/
theorem isNested_iff_components (project : Project) : project.isNested = true ↔
    Path.components project.stagingRoot <+: Path.components project.dependencyRoot :=
  List.isPrefixOf_iff_prefix

/-- The argument for the compiler names the directory it runs in and the open ones. -/
theorem allowedPaths_eq (project : Project) :
    project.allowedPaths = ",".intercalate ("." :: project.openDirectories) := by
  unfold allowedPaths openDirectories
  -- Whether the dependency root is left out of the text is told by the components.
  by_cases nested : project.isNested = true
  · rw [if_pos nested, if_pos (project.isNested_iff_components.1 nested)]
    rfl
  · rw [if_neg nested, if_neg fun inside => nested (project.isNested_iff_components.2 inside)]
    rfl

/-- What lies below the staging root is open. -/
theorem opens_of_stagingRoot {project : Project} {path : String}
    (below : Path.isBelow path project.stagingRoot = true) : project.Opens path :=
  ⟨project.stagingRoot, List.mem_cons_self, below⟩

/-- What lies below the dependency root is open, be it through the staging root. -/
theorem opens_of_dependencyRoot {project : Project} {path : String}
    (below : Path.isBelow path project.dependencyRoot = true) : project.Opens path := by
  by_cases nested : project.isNested = true
  · -- A nested dependency root is opened along with the staging root.
    exact opens_of_stagingRoot (Path.isBelow_trans below nested)
  · -- A dependency root that lies elsewhere is opened for its own sake.
    refine ⟨project.dependencyRoot, ?_, below⟩
    rw [openDirectories, if_neg fun inside => nested (project.isNested_iff_components.2 inside)]
    simp

end Project

/-- The last argument of a command for a file is the one for the compiler. -/
theorem Analyzer.getLast?_args (analyzer path : String) (project : Project) (table : RemapTable) :
    (commandFor analyzer path project table).args.getLast? =
      some ("--solc-args=--allow-paths " ++ project.allowedPaths) := by
  unfold commandFor
  exact List.getLast?_concat

namespace Staging

variable {layout : Layout} {sources : SourceMap} {project : Project} {world final : World}

/-- Every staged file is open to the compiler. -/
theorem Built.opens_file {before cleared reset owned opened after : Disk} {root deep : Location}
    (built : Built layout sources before cleared reset owned opened after root deep project)
    {file : StagedFile} (member : file ∈ project.files) : project.Opens file.path := by
  obtain ⟨⟨absolute, -⟩, absoluteDeep, -⟩ := built.roots_level
  obtain ⟨placed, -⟩ := built.files_below member
  have stageable := built.stageable_file member
  -- The file of a package lies below the dependency root, and any other below the staging root.
  rw [placed]
  cases belongs : file.package.isSome with
  | false => exact Project.opens_of_stagingRoot (pathIn_below absolute stageable).isBelow
  | true => exact Project.opens_of_dependencyRoot (pathIn_below absoluteDeep stageable).isBelow

/-- The directory of a package is open to the compiler. -/
theorem opens_package (ended : build layout sources world = .ok project final) {package : String}
    (member : package ∈ project.libraries) :
    project.Opens (Path.join project.dependencyRoot package) := by
  obtain ⟨_, _, _, _, _, _, built⟩ := build_ok ended
  obtain ⟨-, absolute, -⟩ := built.roots_level
  obtain ⟨plain, -⟩ := marked_of_mem_libraries ended member
  -- The directory of a package has one name more than the dependency root.
  refine Project.opens_of_dependencyRoot ?_
  rw [Path.isBelow, List.isPrefixOf_iff_prefix, Path.components_join_plain absolute plain]
  exact List.prefix_append _ _

/-- The command for a file of a project opens to the compiler the directory it runs in, the staging root,
and the dependency root exactly if its components do not start with those of the staging root. Whatever
rules are declared, every staged file and the target of every rule for a package lie, component by
component, at or below one of the two roots that are opened. -/
theorem build_opens (ended : build layout sources world = .ok project final) (declared : List String) :
    (∀ analyzer path table, (Analyzer.commandFor analyzer path project table).args.getLast? =
      some ("--solc-args=--allow-paths " ++ project.allowedPaths)) ∧
    project.allowedPaths = ",".intercalate ("." :: project.openDirectories) ∧
    (∀ file ∈ project.files, project.Opens file.path) ∧
    ∀ rule ∈ project.libraries.map (RemapTable.packageRule project),
      rule ∈ (RemapTable.resolve project declared).entries ∧ project.Opens rule.target := by
  obtain ⟨_, _, _, _, _, _, built⟩ := build_ok ended
  refine ⟨fun analyzer path table => Analyzer.getLast?_args analyzer path project table,
    project.allowedPaths_eq, fun file => built.opens_file, ?_⟩
  intro rule member
  -- A rule for a package leads to the directory of the package.
  obtain ⟨package, listed, rfl⟩ := List.mem_map.1 member
  have plain : ∀ other ∈ project.libraries, Path.isPlain other = true :=
    fun other inside => (marked_of_mem_libraries ended inside).1
  have found := RemapTable.get?_resolve_of_library plain listed declared
  exact ⟨List.mem_of_find?_eq_some found, opens_package ended listed⟩

/-- A dependency root beside the staging root is opened by its own name, though as a text that name goes on
from the name of the staging root. -/
theorem mixedSources_opens :
    ∃ project final, build ⟨"/work/out", "/work/out-deps"⟩ mixedSources emptyWorld = .ok project final ∧
      project.allowedPaths = ".,/work/out,/work/out-deps" ∧
      ∀ file ∈ project.files, project.Opens file.path := by
  let action := build ⟨"/work/out", "/work/out-deps"⟩ mixedSources
  -- As components neither root starts with the other, so both of them are opened.
  have outcome : (Effect.outcome action emptyWorld).toOption.any
      (·.openDirectories = ["/work/out", "/work/out-deps"]) = true := by decide +kernel
  obtain ⟨project, final, ended, told⟩ := Effect.exists_ok_of_any outcome
  obtain ⟨-, allowed, opens, -⟩ := build_opens ended []
  rw [of_decide_eq_true told] at allowed
  exact ⟨project, final, ended, allowed, opens⟩

end Staging

end AuditStage
