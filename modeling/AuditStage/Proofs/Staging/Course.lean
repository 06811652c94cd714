import AuditStage.Proofs.Disk.Clearing
import AuditStage.Proofs.Staging.Footprint

/-! The course of a build: which parts of it change the disk, in which order, and how far it may get. -/

namespace AuditStage.Staging

open Disk (Adds Clears)
open Effect (Keeps)
open AuditStage.Path (ofNames)

/-- No path at all. -/
def Never (_ : String) : Prop :=
  False

/-- A path, or one of the paths above it. -/
def Above (path other : String) : Prop :=
  other ∈ path :: Path.pathsAbove path

/-- A path leads to a directory, and in it the files of some keys are staged. -/
def Filled (path : String) (keys : List String) (before after : Disk) : Prop :=
  ∃ root, before.resolve path = .ok root ∧ before.entryAt? root = some .directory ∧
    (∀ key ∈ keys, Key.isStageable key = true) ∧
    Adds (Made root keys) (Written root keys) before after

/-- The keys that belong to no package. -/
def ownKeys (keys : List String) : List String :=
  keys.filter fun key => (Key.package? key).isNone

/-- The keys that belong to a package. -/
def libraryKeys (keys : List String) : List String :=
  keys.filter fun key => (Key.package? key).isSome

/-- The disks that a build passes through: cleared, with the staging root made anew, with the project's
own files in it, with the dependency root, and with the files of the libraries. -/
structure Course (layout : Layout) (keys : List String)
    (before cleared reset owned opened after : Disk) : Prop where
  clearing : Clears layout.stagingRoot before cleared
  resetting : Adds (Above layout.stagingRoot) Never cleared reset
  owning : owned = reset ∨ Filled layout.stagingRoot (ownKeys keys) reset owned
  opening : Adds (Above layout.dependencyRoot) Never owned opened
  filling : after = opened ∨ Filled layout.dependencyRoot (libraryKeys keys) opened after

/-- Only keys that can be staged are staged at all. -/
theorem requireStageable_cases (keys : List String) (world : World) :
    (requireStageable keys world = .ok () world ∧ ∀ key ∈ keys, Key.isStageable key = true) ∨
      ∃ key ∈ keys, Key.isStageable key = false ∧
        requireStageable keys world = .error (.unsafePath key) world := by
  unfold requireStageable
  -- The first key that does not pass ends the check.
  cases found : keys.find? (!Key.isStageable ·) with
  | none => exact .inl ⟨rfl, by simpa using found⟩
  | some key =>
    -- The key that was found is one of those given, and it is why the check ends.
    have refused := List.find?_some found
    exact .inr ⟨key, List.mem_of_find?_eq_some found, by simpa using refused, rfl⟩

/-- The canonical path of a directory that was made names the location that its path leads to. -/
theorem canonical_of_makeDirectories {disk before : Disk} {path text : String}
    (made : Disk.makeDirectories path before = .ok () disk) (canonical : disk.canonical path = .ok text) :
    ∃ root, text = ofNames root ∧ disk.resolve path = .ok root ∧
      disk.entryAt? root = some .directory := by
  obtain ⟨root, resolved, rfl⟩ := Disk.canonical_ok_iff.1 canonical
  exact ⟨root, rfl, resolved, Disk.directory_of_makeDirectories made resolved⟩

/-- Making a root adds no more than the paths to it. -/
theorem makeRoot_adds (path : String) :
    Keeps (Order.Preimage World.disk (Adds (Above path) Never)) (makeRoot path) :=
  (onDisk_adds (Disk.makeDirectories_adds path)).bind fun _ => same_adds (Run.fromDisk_keeps _)

/-- A root that was made is a directory, and its canonical path names where it really lies. -/
theorem makeRoot_ok {path text : String} {world final : World}
    (ended : makeRoot path world = .ok text final) :
    Disk.makeDirectories path world.disk = .ok () final.disk ∧
      ∃ root, text = ofNames root ∧ final.disk.resolve path = .ok root ∧
        final.disk.entryAt? root = some .directory := by
  obtain ⟨_, between, made, read⟩ := Effect.bind_ok ended
  -- The canonical path is read on the disk that the making has left.
  obtain ⟨disk, tried, rfl⟩ := Run.onDisk_ok made
  obtain ⟨canonical, rfl⟩ := Run.fromDisk_ok read
  exact ⟨tried, canonical_of_makeDirectories tried canonical⟩

/-- The staging root is cleared and made anew, as far as that is possible. -/
theorem resetRoot_resets (root : String) (world : World) :
    ∃ cleared, Clears root world.disk cleared ∧
      Adds (Above root) Never cleared (Effect.after (resetRoot root) world).disk ∧
      ∀ text final, resetRoot root world = .ok text final →
        Disk.clear root world.disk = .ok () cleared ∧
          Disk.makeDirectories root cleared = .ok () final.disk ∧
          ∃ location, text = ofNames location ∧ final.disk.resolve root = .ok location ∧
            final.disk.entryAt? location = some .directory := by
  unfold resetRoot
  -- A failure to clear may come after a part has been cleared.
  cases cleared : Disk.clear root world.disk with
  | error error disk =>
    have failed := Run.onDisk_of_error cleared
    refine ⟨disk, (Disk.clear_clears root).of_error cleared, ?_, ?_⟩
    · rw [Effect.after_bind_of_error failed]
      exact refl_of (Adds _ _) disk
    · intro text final ended
      rw [Effect.bind_of_error failed] at ended
      cases ended
  | ok _ disk =>
    -- Once the root is cleared, all that is left is to make it.
    have done := Run.onDisk_of_ok cleared
    refine ⟨disk, (Disk.clear_clears root).of_ok cleared, ?_, ?_⟩
    · rw [Effect.after_bind_of_ok done]
      exact makeRoot_adds root { world with disk }
    · intro text final ended
      rw [Effect.bind_of_ok done] at ended
      exact ⟨rfl, makeRoot_ok ended⟩

/-- Opening the dependency root makes it, and nothing but the paths to it. -/
theorem openDependencyRoot_adds (layout : Layout) (stagingRoot : String) :
    Keeps (Order.Preimage World.disk (Adds (Above layout.dependencyRoot) Never))
      (openDependencyRoot layout stagingRoot) := by
  -- A look at the disk and a remark in the log stand around the making.
  refine .bind .get fun world => (makeRoot_adds _).bind fun root => ?_
  split
  · exact .bind (same_adds (Run.note_keeps (fun _ _ => rfl) _ _)) fun _ => .pure _
  · exact .pure _

/-- Opening the dependency root makes it, tells whether it was a directory before, and may add to the
log. -/
theorem openDependencyRoot_made {layout : Layout} {stagingRoot : String} {opened : String × Bool}
    {world final : World} (ended : openDependencyRoot layout stagingRoot world = .ok opened final) :
    (∃ made, makeRoot layout.dependencyRoot world = .ok opened.1 made ∧ final.disk = made.disk) ∧
      opened.2 = world.disk.isDirectory layout.dependencyRoot := by
  obtain ⟨_, _, looked, ended⟩ := Effect.bind_ok ended
  cases looked
  obtain ⟨root, made, making, ended⟩ := Effect.bind_ok ended
  -- A remark in the log leaves the disk and the path as they are.
  suffices (root, world.disk.isDirectory layout.dependencyRoot) = opened ∧ made.disk = final.disk by
    obtain ⟨rfl, kept⟩ := this
    exact ⟨⟨made, making, kept.symm⟩, rfl⟩
  -- The remark is made only if there was a directory before.
  split at ended
  · obtain ⟨_, _, noted, last⟩ := Effect.bind_ok ended
    cases noted
    cases last
    exact ⟨rfl, rfl⟩
  · cases ended
    exact ⟨rfl, rfl⟩

/-- A dependency root that was opened is a directory, and its path names where it really lies. -/
theorem openDependencyRoot_ok {layout : Layout} {stagingRoot : String} {opened : String × Bool}
    {world final : World} (ended : openDependencyRoot layout stagingRoot world = .ok opened final) :
    Disk.makeDirectories layout.dependencyRoot world.disk = .ok () final.disk ∧
      ∃ root, opened.1 = ofNames root ∧ final.disk.resolve layout.dependencyRoot = .ok root ∧
        final.disk.entryAt? root = some .directory := by
  obtain ⟨⟨made, making, kept⟩, -⟩ := openDependencyRoot_made ended
  rw [kept]
  exact makeRoot_ok making

/-- The last part of a build stages the packages, reads which ones there are, and tells of the project. -/
theorem finish_staged {stagingRoot dependencyRoot : String} {preexisted : Bool} {sources : SourceMap}
    {staged : List StagedFile} {project : Project} {world final : World}
    (ended : finish stagingRoot dependencyRoot preexisted sources staged world = .ok project final) :
    ∃ all filled found, (Key.packagesOf sources.keys).foldlM (stagePackage dependencyRoot sources) staged
        world = .ok all filled ∧ final.disk = filled.disk ∧
      final.disk.listing dependencyRoot = .ok found ∧
      project = ⟨stagingRoot, dependencyRoot, preexisted, inOrder sources.keys all,
        Key.packagesOf sources.keys ++
          (packagesFound found).filter (!(Key.packagesOf sources.keys).contains ·)⟩ := by
  obtain ⟨all, filled, packages, ended⟩ := Effect.bind_ok ended
  obtain ⟨found, looked, reading, ended⟩ := Effect.bind_ok ended
  obtain ⟨_, told, noting, ended⟩ := Effect.bind_ok ended
  obtain ⟨_, counted, counting, ended⟩ := Effect.bind_ok ended
  -- The listing is read from the disk that the build leaves, for what follows is written to the log.
  obtain ⟨listed, rfl⟩ := Run.fromDisk_ok reading
  cases noting
  cases counting
  cases ended
  exact ⟨all, _, found, packages, rfl, listed, rfl⟩

/-- The libraries are staged where their keys lead from the dependency root. -/
theorem finish_treads {base : Location} (plain : ∀ name ∈ base, Path.isPlain name = true)
    {sources : SourceMap} (stageable : ∀ key ∈ sources.keys, Key.isStageable key = true)
    (stagingRoot : String) (preexisted : Bool) (staged : List StagedFile) :
    Keeps (Treads base (libraryKeys sources.keys))
      (finish stagingRoot (ofNames base) preexisted sources staged) := by
  have notes (text : String) : Keeps (Treads base (libraryKeys sources.keys)) (Run.note .info text) :=
    same_adds (Run.note_keeps (fun _ _ => rfl) _ _)
  -- Beyond the files of the packages, nothing but the log is written.
  refine .bind (.foldlM (fun package member staged => ?_) staged) fun staged =>
    .bind (same_adds (Run.fromDisk_keeps _)) fun found =>
      (notes _).bind fun _ => (notes _).bind fun _ => .pure _
  -- A package is one because some key belongs to it.
  obtain ⟨key, known, belongs⟩ := Key.mem_packagesOf.1 member
  refine stagePackage_treads plain (fun key member => stageable key (List.mem_filter.1 member).1)
    (Key.isPlain_package belongs) (fun key known belongs => ?_) ⟨key, known, belongs⟩ staged
  exact List.mem_filter.2 ⟨known, by simp [belongs]⟩

/-- What a build does once its staging root has been made anew. -/
def stage (layout : Layout) (sources : SourceMap) (stagingRoot : String) : Run Project := do
  let staged ← stageOwn stagingRoot sources
  let (dependencyRoot, preexisted) ← openDependencyRoot layout stagingRoot
  finish stagingRoot dependencyRoot preexisted sources staged

/-- A build looks at the keys, makes the staging root anew, and stages the files. -/
theorem build_eq (layout : Layout) (sources : SourceMap) :
    build layout sources = requireStageable sources.keys >>= fun _ =>
      resetRoot layout.stagingRoot >>= stage layout sources :=
  rfl

/-- Keys that can be staged pass the check. -/
theorem requireStageable_ok {keys : List String} (stageable : ∀ key ∈ keys, Key.isStageable key = true)
    (world : World) : requireStageable keys world = .ok () world := by
  rcases requireStageable_cases keys world with ⟨passed, -⟩ | ⟨key, member, unfit, -⟩
  · exact passed
  · rw [stageable key member] at unfit
    cases unfit

/-- A build that ends well has found all keys fit, made its staging root anew, and staged the files. -/
theorem build_stages {layout : Layout} {sources : SourceMap} {project : Project} {world final : World}
    (ended : build layout sources world = .ok project final) :
    (∀ key ∈ sources.keys, Key.isStageable key = true) ∧
      ∃ text reset, resetRoot layout.stagingRoot world = .ok text reset ∧
        stage layout sources text reset = .ok project final := by
  rw [build_eq] at ended
  -- The check of the keys leaves the world as it is.
  rcases requireStageable_cases sources.keys world with ⟨passed, stageable⟩ | ⟨key, -, -, refused⟩
  swap
  · rw [Effect.bind_of_error refused] at ended
    cases ended
  rw [Effect.bind_of_ok passed] at ended
  obtain ⟨text, reset, resetting, staging⟩ := Effect.bind_ok ended
  exact ⟨stageable, text, reset, resetting, staging⟩

/-- Staging goes on from the project's own files to the dependency root, and from there to the packages. -/
theorem stage_ok {layout : Layout} {sources : SourceMap} {stagingRoot : String} {project : Project}
    {reset final : World} (ended : stage layout sources stagingRoot reset = .ok project final) :
    ∃ staged owned dependencyRoot preexisted opened,
      stageOwn stagingRoot sources reset = .ok staged owned ∧
      openDependencyRoot layout stagingRoot owned = .ok (dependencyRoot, preexisted) opened ∧
      finish stagingRoot dependencyRoot preexisted sources staged opened = .ok project final := by
  obtain ⟨staged, owned, owning, ended⟩ := Effect.bind_ok ended
  obtain ⟨⟨dependencyRoot, preexisted⟩, opened, opening, ended⟩ := Effect.bind_ok ended
  exact ⟨staged, owned, dependencyRoot, preexisted, opened, owning, opening, ended⟩

/-- What is staged once the staging root has been made anew, whether or not all of it is. -/
theorem stage_course {layout : Layout} {sources : SourceMap} {root : Location} {reset : World}
    (stageable : ∀ key ∈ sources.keys, Key.isStageable key = true)
    (resolved : reset.disk.resolve layout.stagingRoot = .ok root)
    (directory : reset.disk.entryAt? root = some .directory) :
    ∃ owned opened,
      (owned = reset.disk ∨ Filled layout.stagingRoot (ownKeys sources.keys) reset.disk owned) ∧
      Adds (Above layout.dependencyRoot) Never owned opened ∧
      ((Effect.after (stage layout sources (ofNames root)) reset).disk = opened ∨
        Filled layout.dependencyRoot (libraryKeys sources.keys) opened
          (Effect.after (stage layout sources (ofNames root)) reset).disk) := by
  unfold stage
  -- The keys have all been looked at before.
  have own : ∀ key ∈ ownKeys sources.keys, Key.isStageable key = true :=
    fun key member => stageable key (List.mem_filter.1 member).1
  have treads : Keeps (Treads root (ownKeys sources.keys)) (stageOwn (ofNames root) sources) :=
    stageOwn_treads (plain_of_entryAt? directory) own fun key known belongs =>
      List.mem_filter.2 ⟨known, by simp [belongs]⟩
  -- Where the staging fails, the disk stays as it is from there on.
  cases staged : stageOwn (ofNames root) sources reset with
  | error error owned =>
    rw [Effect.after_bind_of_error staged]
    exact ⟨_, _, .inr ⟨root, resolved, directory, own, treads.of_error staged⟩, refl_of (Adds _ _) _,
      .inl rfl⟩
  | ok files owned =>
    rw [Effect.after_bind_of_ok staged]
    have owning : Filled layout.stagingRoot (ownKeys sources.keys) reset.disk owned.disk :=
      ⟨root, resolved, directory, own, treads.of_ok staged⟩
    -- What comes next adds the paths to the dependency root, however it ends.
    have opening := openDependencyRoot_adds layout (ofNames root)
    cases opens : openDependencyRoot layout (ofNames root) owned with
    | error error opened =>
      rw [Effect.after_bind_of_error opens]
      exact ⟨_, _, .inr owning, opening.of_error opens, .inl rfl⟩
    | ok pair opened =>
      rw [Effect.after_bind_of_ok opens]
      -- The packages are staged where the dependency root has been found to lie.
      obtain ⟨-, deep, named, deepResolved, deepDirectory⟩ := openDependencyRoot_ok opens
      obtain ⟨dependencyRoot, preexisted⟩ := pair
      obtain rfl : dependencyRoot = ofNames deep := named
      exact ⟨_, _, .inr owning, opening.of_ok opens,
        .inr ⟨deep, deepResolved, deepDirectory,
          fun key member => stageable key (List.mem_filter.1 member).1,
          finish_treads (plain_of_entryAt? deepDirectory) stageable _ _ _ opened⟩⟩

/-- A build passes through its course, whether it comes to its end or not. -/
theorem build_course (layout : Layout) (sources : SourceMap) (world : World) :
    ∃ cleared reset owned opened, Course layout sources.keys world.disk cleared reset owned opened
      (Effect.after (build layout sources) world).disk := by
  have nothing := Clears.none layout.stagingRoot world.disk
  rw [build_eq]
  -- Where the build fails, the disk stays as it is from there on.
  rcases requireStageable_cases sources.keys world with ⟨required, stageable⟩ | ⟨key, -, -, refused⟩
  swap
  · rw [Effect.after_bind_of_error refused]
    exact ⟨_, _, _, _, nothing, refl_of (Adds _ _) _, .inl rfl, refl_of (Adds _ _) _, .inl rfl⟩
  rw [Effect.after_bind_of_ok required]
  obtain ⟨cleared, clearing, resetting, whole⟩ := resetRoot_resets layout.stagingRoot world
  cases ended : resetRoot layout.stagingRoot world with
  | error error reset =>
    rw [Effect.after_error ended] at resetting
    rw [Effect.after_bind_of_error ended]
    exact ⟨cleared, _, _, _, clearing, resetting, .inl rfl, refl_of (Adds _ _) _, .inl rfl⟩
  | ok text reset =>
    rw [Effect.after_ok ended] at resetting
    rw [Effect.after_bind_of_ok ended]
    -- The root that was made is a directory, so the staging starts from there.
    obtain ⟨-, -, root, rfl, resolved, directory⟩ := whole text reset ended
    obtain ⟨owned, opened, owning, opening, filling⟩ := stage_course stageable resolved directory
    exact ⟨cleared, _, owned, opened, clearing, resetting, owning, opening, filling⟩

end AuditStage.Staging
