import AuditStage.Proofs.Staging.Faithful
import AuditStage.Proofs.Staging.Rebuild

/-! Whether the dependency root was there before: a build looks when it has made the staging root anew and
staged the project's own files, so that it may find a directory that it has made itself. -/

namespace AuditStage.Staging

open AuditStage.Path (ofNames)

variable {layout : Layout} {sources : SourceMap} {project : Project} {staged : List StagedFile}
  {before cleared reset owned opened after : Disk} {root deep location : Location}

/-- A location is still a directory once a path has been cleared. -/
def Outlasts (path : String) (disk : Disk) (location : Location) : Prop :=
  ∃ cleared, Disk.clear path disk = .ok () cleared ∧ cleared.entryAt? location = some .directory

/-- A location lies above the file of a key of the project itself, at or below the staging root. -/
def HoldsOwn (sources : SourceMap) (root location : Location) : Prop :=
  ∃ key ∈ sources.keys, Key.package? key = none ∧
    ∃ names further, further ≠ [] ∧ Key.names key = names ++ further ∧ location = root ++ names

/-- A location is made a directory by the build itself before it looks at the dependency root: it is the
staging root or lies above it, or it lies above one of the project's own files. -/
def Raised (sources : SourceMap) (root location : Location) : Prop :=
  location <+: root ∨ HoldsOwn sources root location

/-- What a project tells of its dependency root. -/
structure Tells (layout : Layout) (sources : SourceMap) (before : Disk) (project : Project)
    (root deep : Location) : Prop where
  stagingRoot : project.stagingRoot = ofNames root
  dependencyRoot : project.dependencyRoot = ofNames deep
  /-- The project says that the dependency root was there before if it has outlasted the clearing of the
  staging root, and also if the build has made it a directory itself. -/
  preexisted_iff : project.preexisted = true ↔
    Outlasts layout.stagingRoot before deep ∨ Raised sources root deep
  /-- What has outlasted the clearing was there before, and is not inside the staging root. -/
  of_outlasts : Outlasts layout.stagingRoot before deep →
    before.entryAt? deep = some .directory ∧ project.isNested = false
  /-- What was there before outlasts the clearing, unless it lies at or below what the path of the staging
  root named. -/
  outlasts : before.entryAt? deep = some .directory →
    (∀ own, before.ownLocation layout.stagingRoot = .ok own → ¬own <+: deep) →
    Outlasts layout.stagingRoot before deep
  /-- If the build has not made it a directory itself, the project tells whether it was one before and is
  not inside the staging root, as long as the clearing changes nothing about where the two paths lead. -/
  truthful : ¬Raised sources root deep →
    (∀ own, before.ownLocation layout.stagingRoot = .ok own → own = root) →
    (before.isDirectory layout.dependencyRoot = true ↔ before.entryAt? deep = some .directory) →
    (project.preexisted = true ↔
      before.isDirectory layout.dependencyRoot = true ∧ project.isNested = false)
  /-- In the default layout the project says so exactly if a key of its own leads through the dependency
  root, whatever was there before. -/
  nested : layout = .nested layout.stagingRoot →
    (project.preexisted = true ↔ ∃ key ∈ sources.keys, Key.package? key = none ∧
      ∃ name rest, Key.names key = Layout.dependencyName :: name :: rest)

/-- The default dependency root is made by the build itself if a key of its own leads through it: the names
of the key start with its name, and go on. -/
theorem raised_nested_iff : Raised sources root (root ++ [Layout.dependencyName]) ↔
    ∃ key ∈ sources.keys, Key.package? key = none ∧
      ∃ name rest, Key.names key = Layout.dependencyName :: name :: rest := by
  -- It lies inside the staging root, and so neither above it nor where it is.
  have inside : ¬root ++ [Layout.dependencyName] <+: root := by
    intro above
    have bound := above.length_le
    simp only [List.length_append, List.length_singleton] at bound
    omega
  rw [Raised, or_iff_right inside]
  constructor
  · rintro ⟨key, member, own, names, further, deeper, split, same⟩
    obtain ⟨name, rest, rfl⟩ := List.exists_cons_of_ne_nil deeper
    -- The names up to the location are the name of the dependency root alone.
    obtain rfl := List.append_cancel_left same
    exact ⟨key, member, own, name, rest, split⟩
  · rintro ⟨key, member, own, name, rest, split⟩
    exact ⟨key, member, own, [Layout.dependencyName], name :: rest, by simp, split, rfl⟩

/-- Without links there is a directory where some of the names of a staged key lead, but not all of them. -/
theorem Standing.directory_above {key : String} {names further : List String}
    (standing : Standing sources staged owned) (listed : fileIn root key ∈ staged)
    (stageable : Key.isStageable key = true) (directory : owned.entryAt? root = some .directory)
    (unlinked : Unlinked owned root) (split : Key.names key = names ++ further) (deeper : further ≠ []) :
    owned.entryAt? (root ++ names) = some .directory := by
  obtain ⟨place, resolved, other, -, content, -, -, found⟩ := standing.holds _ listed
  obtain rfl := unlinked.resolve_pathIn directory stageable resolved
  -- Above the file there are directories.
  rw [split, ← List.append_assoc] at found
  exact Disk.entryAt?_above found deeper

namespace Built

variable (built : Built layout sources before cleared reset owned opened after root deep project)
  (down : .up ∉ Path.components layout.stagingRoot)

include built

/-- The dependency root lies inside the staging root if its names start with those of that one. -/
theorem isNested_iff : project.isNested = true ↔ root <+: deep := by
  obtain ⟨plain, plainDeep⟩ := built.plain_roots
  -- Both roots are spelled by names, so the names can be compared.
  rw [Project.isNested, built.stagingRoot, built.dependencyRoot]
  exact Path.isBelow_iff_prefix (Path.components_ofNames plainDeep) (Path.components_ofNames plain)

/-- What has outlasted the clearing is what the build goes on from. -/
theorem outlasts_iff : Outlasts layout.stagingRoot before location ↔
    cleared.entryAt? location = some .directory := by
  -- Clearing has one outcome, the disk that the build has gone on from.
  constructor
  · rintro ⟨disk, clearing, found⟩
    obtain ⟨-, rfl⟩ : () = () ∧ cleared = disk := by simpa using built.clearing.symm.trans clearing
    exact found
  · intro found
    exact ⟨cleared, built.clearing, found⟩

/-- What was a directory before outlasts the clearing, unless it lies at or below what the path of the
staging root named. -/
theorem outlasts_of_apart (directory : before.entryAt? location = some .directory)
    (apart : ∀ own, before.ownLocation layout.stagingRoot = .ok own → ¬own <+: location) :
    Outlasts layout.stagingRoot before location := by
  rw [built.outlasts_iff, ← directory]
  -- Only what lies at or below the location that the path names is cleared.
  by_contra changed
  obtain ⟨own, named, below⟩ :=
    ((Disk.clear_clears layout.stagingRoot).of_ok built.clearing).below location changed
  exact apart own named below

include down

/-- There is no link below the staging root while the project's own files are staged. -/
theorem unlinked_owned : Unlinked owned root := by
  intro names target further linked
  -- Such a link would have been there when the root had been made anew, and nothing was.
  have found := built.owning.linked linked
  have bare := (Disk.bare_of_anew down built.clearing built.making built.rooted).2
  rw [bare names further] at found
  cases found

/-- What has outlasted the clearing was a directory before, and lies outside the staging root. -/
theorem of_outlasts (outlasts : Outlasts layout.stagingRoot before location) :
    before.entryAt? location = some .directory ∧ ¬root <+: location := by
  have found := built.outlasts_iff.1 outlasts
  have clears := (Disk.clear_clears layout.stagingRoot).of_ok built.clearing
  refine ⟨clears.grows.directory _ found, ?_⟩
  rintro ⟨names, rfl⟩
  obtain ⟨free, bare⟩ := Disk.bare_of_anew down built.clearing built.making built.rooted
  by_cases here : names = []
  · rw [here, List.append_nil, free] at found
    cases found
  · -- Whatever had been left below the staging root would be there still.
    have kept := ((Disk.makeDirectories_adds _).of_ok built.making).directory _ found
    rw [bare names here] at kept
    cases kept

/-- Once the staging root has been made anew, there is a directory where one has outlasted the clearing,
at the staging root, and above it. -/
theorem directory_reset_iff : reset.entryAt? location = some .directory ↔
    Outlasts layout.stagingRoot before location ∨ location <+: root := by
  rw [built.outlasts_iff]
  constructor
  · intro directory
    -- Either it had been left, or it was made, and then on the way to the staging root.
    by_cases same : reset.entryAt? location = cleared.entryAt? location
    · exact .inl (same ▸ directory)
    · exact .inr (Disk.prefix_of_makeDirectories down built.making built.rooted same)
  · rintro (old | ⟨rest, rfl⟩)
    · exact ((Disk.makeDirectories_adds _).of_ok built.making).directory _ old
    · -- All that lies above a directory is one, and the root itself has been made.
      by_cases here : rest = []
      · simpa [here] using built.directory
      · exact Disk.entryAt?_above built.directory here

/-- A directory that is new once the project's own files have been staged lies above one of them. -/
theorem holdsOwn_of_changed (found : owned.entryAt? location = some .directory)
    (changed : owned.entryAt? location ≠ reset.entryAt? location) : HoldsOwn sources root location := by
  have own : ∀ key ∈ ownKeys sources.keys, Key.isStageable key = true :=
    fun key member => built.stageable key (List.mem_filter.1 member).1
  -- It was made on the way of a key, and without links it lies where the names say.
  obtain ⟨key, member, names, further, split, straight, kind⟩ :=
    straight_of_traced built.directory own built.owning (built.unlinked_owned down) changed
  obtain ⟨known, belongs⟩ := List.mem_filter.1 member
  rcases kind with ⟨deeper, -⟩ | ⟨-, content, file⟩
  · exact ⟨key, known, by simpa using belongs, names, further, deeper, split, straight⟩
  · rw [found] at file
    cases file

/-- Once the project's own files have been staged, there are the directories above them as well. -/
theorem directory_owned_iff (standing : Standing sources staged owned)
    (listed : ∀ file, file ∈ staged ↔
      ∃ key ∈ sources.keys, Key.package? key = none ∧ file = fileIn root key) :
    owned.entryAt? location = some .directory ↔
      Outlasts layout.stagingRoot before location ∨ Raised sources root location := by
  rw [Raised, ← or_assoc, ← built.directory_reset_iff down]
  constructor
  · intro found
    -- What is new is on the way to a file of the project; all else was there at the reset.
    by_cases same : owned.entryAt? location = reset.entryAt? location
    · exact .inl (same ▸ found)
    · exact .inr (built.holdsOwn_of_changed down found same)
  · rintro (old | ⟨key, member, belongs, names, further, deeper, split, rfl⟩)
    · exact built.owning.directory _ old
    · exact standing.directory_above ((listed _).2 ⟨key, member, belongs, rfl⟩)
        (built.stageable key member) (built.owning.directory _ built.directory)
        (built.unlinked_owned down) split deeper

/-- In the default layout the dependency root lies in the staging root, by its own name. -/
theorem deep_of_nested (nested : layout = .nested layout.stagingRoot) :
    deep = root ++ [Layout.dependencyName] := by
  have opening := (Disk.makeDirectories_adds _).of_ok built.opening
  -- The staging root leads where it led, and nothing below it is a link.
  have resolved : opened.resolve layout.stagingRoot = .ok root :=
    opening.resolve (built.owning.resolve built.rooted)
  have deepened : opened.resolve (Path.join layout.stagingRoot Layout.dependencyName) = .ok deep := by
    have leads := built.deepened
    rw [nested] at leads
    exact leads
  refine nested_location resolved (fun names target further linked => ?_) deepened
  exact built.unlinked_owned down names target further (opening.linked linked)

end Built

/-- Where neither root has a path that leads up, a project says that its dependency root was there before
if it has outlasted the clearing of the staging root, or the build has made it a directory by then: as
the staging root or above it, or above one of the project's own files. -/
theorem build_tells {world final : World} (ended : build layout sources world = .ok project final)
    (down : .up ∉ Path.components layout.stagingRoot)
    (level : .up ∉ Path.components layout.dependencyRoot) :
    ∃ root deep, Tells layout sources world.disk project root deep := by
  obtain ⟨cleared, reset, owned, opened, root, deep, staged, built, flag, standing, listed⟩ :=
    build_whole ended
  -- The build looks at the disk on which its own files stand, and before it makes the dependency root.
  have preexisted : project.preexisted = true ↔
      Outlasts layout.stagingRoot world.disk deep ∨ Raised sources root deep := by
    rw [flag, Disk.isDirectory_iff_of_makeDirectories level built.opening built.deepened]
    exact built.directory_owned_iff down standing listed
  have outside (lasting : Outlasts layout.stagingRoot world.disk deep) :
      world.disk.entryAt? deep = some .directory ∧ project.isNested = false := by
    obtain ⟨directory, apart⟩ := built.of_outlasts down lasting
    rw [← built.isNested_iff, Bool.not_eq_true] at apart
    exact ⟨directory, apart⟩
  refine ⟨root, deep, {
    stagingRoot := built.stagingRoot
    dependencyRoot := built.dependencyRoot
    preexisted_iff := preexisted
    of_outlasts := outside
    outlasts := built.outlasts_of_apart
    truthful := fun still named leads => ?_
    nested := fun nested => ?_ }⟩
  · -- Without a hand of the build in it, what outlasts the clearing is all that counts.
    rw [preexisted, leads, or_iff_left still]
    constructor
    · exact outside
    · rintro ⟨directory, apart⟩
      apply built.outlasts_of_apart directory
      intro own known inside
      rw [named own known, ← built.isNested_iff, apart] at inside
      cases inside
  · -- Nothing that lies inside the staging root has outlasted the clearing.
    obtain rfl := built.deep_of_nested down nested
    have gone : ¬Outlasts layout.stagingRoot world.disk (root ++ [Layout.dependencyName]) :=
      fun lasting => (built.of_outlasts down lasting).2 (List.prefix_append _ _)
    rw [preexisted, or_iff_right gone]
    exact raised_nested_iff

/-- Sources of a project with a file of its own below the name of the default dependency root. -/
def nestingSources : SourceMap :=
  .ofList [("node_modules/A.sol", "contract A \x7b\x7d")]

/-- A dependency root outside the staging root was there before, and it makes no difference that a file of
the project lies below the name of the default one. -/
theorem nestingSources_tells :
    ∃ project final root deep, build ⟨"/work/out", "/work/deps"⟩ nestingSources
        (worldWith (.atHome ["work", "deps"])) = .ok project final ∧
      Tells ⟨"/work/out", "/work/deps"⟩ nestingSources (.atHome ["work", "deps"]) project root deep ∧
      project.preexisted = true := by
  -- Neither root leads up, so the build tells what it is to tell.
  have outcome : (match build ⟨"/work/out", "/work/deps"⟩ nestingSources
        (worldWith (.atHome ["work", "deps"])) with
    | .ok project _ => project.preexisted
    | .error _ _ => false) = true := by decide +kernel
  split at outcome
  · rename_i project final ended
    obtain ⟨root, deep, tells⟩ := build_tells ended (by decide) (by decide)
    exact ⟨project, final, root, deep, ended, tells, outcome⟩
  · cases outcome

/-- In the default layout a project may say that its dependency root was there before, though nothing
was: a file of its own has been staged in it. -/
theorem not_preexisted_nestingSources :
    ¬ ∀ (layout : Layout) (sources : SourceMap) (world final : World) (project : Project),
      build layout sources world = .ok project final →
      (project.preexisted = true ↔
        world.disk.isDirectory layout.dependencyRoot = true ∧ project.isNested = false) := by
  intro truthful
  -- The project calls its dependency root nested, and says that it was there before all the same.
  have outcome : (match build (.nested "/work/out") nestingSources (worldWith (.atHome ["work"])) with
    | .ok project _ => project.preexisted && project.isNested
    | .error _ _ => false) = true := by decide +kernel
  split at outcome
  · rename_i project final ended
    obtain ⟨told, nested⟩ := (Bool.and_eq_true _ _).mp outcome
    have outside := ((truthful _ _ _ _ _ ended).1 told).2
    rw [nested] at outside
    cases outside
  · cases outcome

end AuditStage.Staging
