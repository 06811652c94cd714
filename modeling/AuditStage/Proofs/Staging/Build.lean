import AuditStage.Proofs.Staging.Chosen

/-! A build that comes to its end: which files it lists, where they stand, and what they hold. -/

namespace AuditStage.Staging

open Disk (Adds Grows)
open Effect (Same)
open AuditStage.Path (ofNames)

variable {sources : SourceMap} {staged next : List StagedFile} {before after : Disk}

/-- The files staged so far stand at paths of their own, and each path leads to a file that holds what
was written last through any of the paths that lead there. -/
structure Standing (sources : SourceMap) (staged : List StagedFile) (disk : Disk) : Prop where
  apart : ∀ file ∈ staged, ∀ other ∈ staged, file ≠ other →
    Path.components file.path ≠ Path.components other.path
  holds : ∀ file ∈ staged, ∃ location, disk.resolve file.path = .ok location ∧
    ∃ other ∈ staged, ∃ content, (other.key, content) ∈ sources.files ∧
      disk.resolve other.path = .ok location ∧ disk.entryAt? location = some (.file content)

/-- A file keeps its content, or another has been written where it lies. -/
theorem file_of_adds {made written : String → Prop} {location : Location} {content : String}
    (adds : Adds made written before after) (found : before.entryAt? location = some (.file content)) :
    after.entryAt? location = some (.file content) ∨
      ∃ path, written path ∧ after.resolve path = .ok location := by
  -- Where something has changed, a directory was made in a free place or a file written.
  by_cases same : after.entryAt? location = before.entryAt? location
  · exact .inl (same ▸ found)
  · obtain ⟨path, resolved, ⟨-, free, -⟩ | ⟨wrote, -⟩⟩ := adds.reached location same
    · simp [found] at free
    · exact .inr ⟨path, wrote, resolved⟩

/-- Making directories disturbs no staged file. -/
theorem Standing.made {made : String → Prop} (standing : Standing sources staged before)
    (adds : Adds made Never before after) : Standing sources staged after where
  apart := standing.apart
  holds file member := by
    obtain ⟨location, resolved, other, known, content, source, same, found⟩ :=
      standing.holds file member
    refine ⟨location, adds.resolve resolved, other, known, content, source, adds.resolve same, ?_⟩
    -- Only directories are made here, so the file was there before.
    rcases file_of_adds adds found with kept | ⟨path, never, -⟩
    · exact kept
    · exact never.elim

/-- Writing a file at a path of its own adds it to those that stand already. -/
theorem Standing.written {file : StagedFile} {content : String}
    (standing : Standing sources staged before) (source : (file.key, content) ∈ sources.files)
    (fresh : ∀ other ∈ staged, Path.components other.path ≠ Path.components file.path)
    (done : Disk.writeFile file.path content before = .ok () after) :
    Standing sources (staged ++ [file]) after := by
  -- The new file takes nothing away, and its path leads to it.
  have adds : Adds _ _ before after := (Disk.writeFile_adds file.path content).of_ok done
  obtain ⟨location, resolved, found⟩ := Disk.content_of_writeFile done
  refine ⟨fun one first two second different => ?_, fun one member => ?_⟩
  · rcases List.mem_append.1 first with old | new <;>
      rcases List.mem_append.1 second with old' | new'
    · exact standing.apart one old two old' different
    · exact List.mem_singleton.1 new' ▸ fresh one old
    · exact List.mem_singleton.1 new ▸ (fresh two old').symm
    · exact absurd ((List.mem_singleton.1 new).trans (List.mem_singleton.1 new').symm) different
  · rcases List.mem_append.1 member with old | new
    · obtain ⟨place, leads, other, known, text, origin, same, holds⟩ := standing.holds one old
      refine ⟨place, adds.resolve leads, ?_⟩
      -- What lies there is what was written before, or what is written now.
      rcases file_of_adds adds holds with kept | ⟨path, rfl, reached⟩
      · exact ⟨other, List.mem_append_left _ known, text, origin, adds.resolve same, kept⟩
      · obtain rfl : location = place := Except.ok.inj (resolved.symm.trans reached)
        exact ⟨file, by simp, content, source, resolved, found⟩
    · obtain rfl := List.mem_singleton.1 new
      exact ⟨location, resolved, one, by simp, content, source, resolved, found⟩

/-- Staging a file adds it to those that stand already. -/
theorem stageFile_ok {file : StagedFile} {content : String} {world final : World}
    (standing : Standing sources staged world.disk) (source : (file.key, content) ∈ sources.files)
    (ended : stageFile staged file content world = .ok next final) :
    next = staged ++ [file] ∧ Standing sources (staged ++ [file]) final.disk := by
  unfold stageFile at ended
  -- A path that has been claimed ends the staging.
  cases owner : ownerOf? staged file.path with
  | some other =>
    simp only [owner] at ended
    cases ended
  | none =>
    simp only [owner] at ended
    obtain ⟨_, between, wrote, last⟩ := Effect.bind_ok ended
    cases last
    obtain ⟨disk, done, rfl⟩ := Run.onDisk_ok wrote
    -- No file has claimed the path so far.
    have fresh : ∀ other ∈ staged, Path.components other.path ≠ Path.components file.path := by
      simpa [ownerOf?] using owner
    exact ⟨rfl, standing.written source fresh done⟩

/-- The files of chosen keys stand in their tree once they have been staged. -/
theorem stageChosen_ok {base : Location} {chosen : String → Bool} {files : List (String × String)}
    {world final : World} (standing : Standing sources staged world.disk)
    (known : ∀ file ∈ files, file ∈ sources.files)
    (ended : stageChosen base chosen files staged world = .ok next final) :
    Standing sources next final.disk := by
  -- After any number of keys, the files of the chosen ones among them have joined the others.
  refine Effect.foldlM_ok (motive := fun _ next world => Standing sources next world.disk) standing ?_
    ended
  rintro done file rest staged next between after split stands stepped
  -- A key that is not chosen changes nothing.
  split at stepped
  · obtain ⟨rfl, further⟩ := stageFile_ok stands (known file (by simp [split])) stepped
    exact further
  · cases stepped
    exact stands

/-- The project's own files stand in the staging root once they have been staged. -/
theorem stageOwn_ok {root : Location} {world final : World}
    (ended : stageOwn (ofNames root) sources world = .ok staged final) :
    Standing sources staged final.disk ∧
      ∀ file, file ∈ staged ↔ ∃ key ∈ sources.keys, Key.package? key = none ∧ file = fileIn root key := by
  rw [stageOwn_eq] at ended
  refine ⟨stageChosen_ok ⟨by simp, by simp⟩ (fun _ member => member) ended, fun file => ?_⟩
  rw [eq_of_stageChosen ended, List.nil_append, mem_chosenIn]
  simp [isOwn, SourceMap.keys]

/-- The files of a package stand in its directory once they have been staged. -/
theorem stagePackage_ok {deep : Location} {package : String} {world final : World}
    (standing : Standing sources staged world.disk)
    (ended : stagePackage (ofNames deep) sources staged package world = .ok next final) :
    Standing sources next final.disk ∧
      ∀ file, file ∈ next ↔ file ∈ staged ∨
        ∃ key ∈ sources.keys, Key.package? key = some package ∧ file = fileIn deep key := by
  rw [stagePackage_eq] at ended
  obtain ⟨_, made, making, filled⟩ := Effect.bind_ok ended
  -- Making the directory of the package leaves the files that stand where they are.
  have adds : Adds (Above (Path.join (ofNames deep) package)) Never world.disk made.disk :=
    (onDisk_adds (Disk.makeDirectories_adds _)).of_ok making
  refine ⟨stageChosen_ok (standing.made adds) (fun _ member => member) filled, fun file => ?_⟩
  rw [eq_of_stageChosen filled, List.mem_append, mem_chosenIn]
  simp [isOf, SourceMap.keys]

/-- Files that are those of the keys are found in the order of the keys. -/
theorem inOrder_eq {keys : List String} {file : String → StagedFile}
    (named : ∀ key, (file key).key = key)
    (listed : ∀ other, other ∈ staged ↔ ∃ key ∈ keys, other = file key) :
    inOrder keys staged = keys.map file := by
  rw [inOrder, ← List.filterMap_eq_map]
  refine List.filterMap_congr fun key member => ?_
  -- The file of the key is among those staged, so something is found for it.
  have present : file key ∈ staged := (listed _).2 ⟨key, member, rfl⟩
  cases found : staged.find? (·.key == key) with
  | none => simpa [named] using List.find?_eq_none.1 found _ present
  | some other =>
    -- Whatever is found for the key is the file of the key.
    have here := List.find?_some found
    simp only [beq_iff_eq] at here
    obtain ⟨key', -, rfl⟩ := (listed other).1 (List.mem_of_find?_eq_some found)
    rw [named] at here
    exact here ▸ rfl

/-- The root of the tree in which the file of a key stands. -/
def baseOf (root deep : Location) (key : String) : Location :=
  if (Key.package? key).isSome then deep else root

/-- A build has come to its end: the disks that it passed through, where its roots lie, and what it
says about the project. -/
structure Built (layout : Layout) (sources : SourceMap) (before cleared reset owned opened after : Disk)
    (root deep : Location) (project : Project) : Prop where
  stageable : ∀ key ∈ sources.keys, Key.isStageable key = true
  clearing : Disk.clear layout.stagingRoot before = .ok () cleared
  making : Disk.makeDirectories layout.stagingRoot cleared = .ok () reset
  rooted : reset.resolve layout.stagingRoot = .ok root
  directory : reset.entryAt? root = some .directory
  owning : Adds (Made root (ownKeys sources.keys)) (Written root (ownKeys sources.keys)) reset owned
  opening : Disk.makeDirectories layout.dependencyRoot owned = .ok () opened
  deepened : opened.resolve layout.dependencyRoot = .ok deep
  deepDirectory : opened.entryAt? deep = some .directory
  filling : Adds (Made deep (libraryKeys sources.keys)) (Written deep (libraryKeys sources.keys))
    opened after
  stagingRoot : project.stagingRoot = ofNames root
  dependencyRoot : project.dependencyRoot = ofNames deep
  files : project.files = sources.keys.map fun key => fileIn (baseOf root deep key) key
  standing : Standing sources project.files after

/-- Clearing the staging root and making it anew give one disk each, and the root leads to one location. -/
theorem Built.unique {layout : Layout} {cleared reset owned opened cleared' reset' : Disk}
    {root deep root' : Location} {project : Project}
    (built : Built layout sources before cleared reset owned opened after root deep project)
    (clearing : Disk.clear layout.stagingRoot before = .ok () cleared')
    (making : Disk.makeDirectories layout.stagingRoot cleared' = .ok () reset')
    (rooted : reset'.resolve layout.stagingRoot = .ok root') :
    cleared = cleared' ∧ reset = reset' ∧ root = root' := by
  -- Each of the actions has one outcome on a given disk.
  obtain ⟨-, rfl⟩ : () = () ∧ cleared = cleared' := by simpa using built.clearing.symm.trans clearing
  obtain ⟨-, rfl⟩ : () = () ∧ reset = reset' := by simpa using built.making.symm.trans making
  exact ⟨rfl, rfl, Except.ok.inj (built.rooted.symm.trans rooted)⟩

/-- The files of all packages stand in the dependency root once they have been staged. -/
theorem packages_ok {deep : Location} {packages : List String} {world final : World}
    (standing : Standing sources staged world.disk)
    (ended : packages.foldlM (stagePackage (ofNames deep) sources) staged world = .ok next final) :
    Standing sources next final.disk ∧ ∀ file, file ∈ next ↔ file ∈ staged ∨
      ∃ key ∈ sources.keys, ∃ package ∈ packages,
        Key.package? key = some package ∧ file = fileIn deep key := by
  -- The files that are there after some packages are those of these packages.
  refine Effect.foldlM_ok
    (motive := fun done next world => Standing sources next world.disk ∧ ∀ file, file ∈ next ↔
      file ∈ staged ∨ ∃ key ∈ sources.keys, ∃ package ∈ done,
        Key.package? key = some package ∧ file = fileIn deep key)
    ⟨standing, by simp⟩ ?_ ended
  rintro done package rest next later between after - ⟨stands, covers⟩ stepped
  obtain ⟨stands, more⟩ := stagePackage_ok stands stepped
  refine ⟨stands, fun file => (more file).trans ?_⟩
  -- The files of this package join those of the packages before it.
  rw [covers file, or_assoc]
  refine or_congr_right ?_
  simp only [List.mem_append, List.mem_singleton, or_and_right, exists_or, exists_eq_left, and_or_left]

/-- The last part of a build stages the libraries and lists all files in the order of their keys; it
passes on what it was told of the dependency root. -/
theorem finish_ok {root deep : Location} {preexisted : Bool} {project : Project} {world final : World}
    (standing : Standing sources staged world.disk)
    (listed : ∀ file, file ∈ staged ↔
      ∃ key ∈ sources.keys, Key.package? key = none ∧ file = fileIn root key)
    (ended : finish (ofNames root) (ofNames deep) preexisted sources staged world = .ok project final) :
    project.stagingRoot = ofNames root ∧ project.dependencyRoot = ofNames deep ∧
      project.preexisted = preexisted ∧
      project.files = sources.keys.map (fun key => fileIn (baseOf root deep key) key) ∧
      Standing sources project.files final.disk := by
  obtain ⟨all, filled, found, packages, kept, -, rfl⟩ := finish_staged ended
  obtain ⟨stands, covers⟩ := packages_ok standing packages
  -- Every key belongs to one of the packages, or to none.
  have complete : ∀ other, other ∈ all ↔
      ∃ key ∈ sources.keys, other = fileIn (baseOf root deep key) key := by
    intro other
    rw [covers other, listed other]
    constructor
    · rintro (⟨key, member, own, rfl⟩ | ⟨key, member, package, -, belongs, rfl⟩)
      · exact ⟨key, member, by simp [baseOf, own]⟩
      · exact ⟨key, member, by simp [baseOf, belongs]⟩
    · rintro ⟨key, member, rfl⟩
      cases belongs : Key.package? key with
      | none => exact .inl ⟨key, member, belongs, by simp [baseOf, belongs]⟩
      | some package =>
        exact .inr ⟨key, member, package, Key.mem_packagesOf.2 ⟨key, member, belongs⟩, belongs,
          by simp [baseOf, belongs]⟩
  have files : inOrder sources.keys all =
      sources.keys.map fun key => fileIn (baseOf root deep key) key :=
    inOrder_eq (fun _ => rfl) complete
  -- Putting the files in order loses none of them and adds none.
  have same : ∀ other, other ∈ inOrder sources.keys all ↔ other ∈ all := by
    intro other
    rw [files, complete other, List.mem_map]
    exact exists_congr fun key => and_congr_right fun _ => eq_comm
  -- So what is known of the files in any order is known of them in this one.
  refine ⟨rfl, rfl, rfl, files, ⟨fun file known other member => ?_, fun file known => ?_⟩⟩
  · exact stands.apart file ((same file).1 known) other ((same other).1 member)
  · obtain ⟨location, resolved, other, member, content, source, reached, holds⟩ :=
      stands.holds file ((same file).1 known)
    exact ⟨location, kept ▸ resolved, other, (same other).2 member, content, source, kept ▸ reached,
      kept ▸ holds⟩

/-- A build that comes to its end has gone through all of its course. The project's own files stood
when the dependency root was opened, and the project tells whether that was a directory then. -/
theorem build_whole {layout : Layout} {project : Project} {world final : World}
    (ended : build layout sources world = .ok project final) :
    ∃ cleared reset owned opened root deep staged,
      Built layout sources world.disk cleared reset owned opened final.disk root deep project ∧
      project.preexisted = owned.isDirectory layout.dependencyRoot ∧ Standing sources staged owned ∧
      ∀ file, file ∈ staged ↔
        ∃ key ∈ sources.keys, Key.package? key = none ∧ file = fileIn root key := by
  obtain ⟨stageable, text, reset, resetting, staging⟩ := build_stages ended
  obtain ⟨staged, owned, dependencyText, preexisted, opened, owning, opening, finishing⟩ := stage_ok staging
  -- The staging root is cleared and made anew.
  obtain ⟨cleared, -, -, whole⟩ := resetRoot_resets layout.stagingRoot world
  obtain ⟨clearing, making, root, rfl, rooted, directory⟩ := whole text reset resetting
  -- The project's own files are staged in it.
  have own : ∀ key ∈ ownKeys sources.keys, Key.isStageable key = true :=
    fun key member => stageable key (List.mem_filter.1 member).1
  have treads : Treads root (ownKeys sources.keys) reset owned :=
    (stageOwn_treads (plain_of_entryAt? directory) own fun key known belongs =>
      List.mem_filter.2 ⟨known, by simp [belongs]⟩).of_ok owning
  obtain ⟨standing, listed⟩ := stageOwn_ok owning
  -- The dependency root is made, and the files of the packages are staged in that.
  obtain ⟨-, told⟩ := openDependencyRoot_made opening
  obtain ⟨made, deep, named, deepened, deepDirectory⟩ := openDependencyRoot_ok opening
  obtain rfl : dependencyText = ofNames deep := named
  have kept : Adds (Above layout.dependencyRoot) Never owned.disk opened.disk :=
    (openDependencyRoot_adds layout (ofNames root)).of_ok opening
  have filling := (finish_treads (plain_of_entryAt? deepDirectory) stageable (ofNames root) preexisted
    staged).of_ok finishing
  obtain ⟨stagingRoot, dependencyRoot, flag, files, stands⟩ :=
    finish_ok (standing.made kept) listed finishing
  exact ⟨cleared, reset.disk, owned.disk, opened.disk, root, deep, staged, {
    stageable, clearing, making, rooted, directory, owning := treads, opening := made, deepened,
    deepDirectory, filling, stagingRoot, dependencyRoot, files, standing := stands },
    flag.trans told, standing, listed⟩

/-- A build that comes to its end has gone through all of its course. -/
theorem build_ok {layout : Layout} {project : Project} {world final : World}
    (ended : build layout sources world = .ok project final) :
    ∃ cleared reset owned opened root deep,
      Built layout sources world.disk cleared reset owned opened final.disk root deep project := by
  obtain ⟨cleared, reset, owned, opened, root, deep, -, built, -⟩ := build_whole ended
  exact ⟨cleared, reset, owned, opened, root, deep, built⟩

namespace Built

variable {layout : Layout} {project : Project} {cleared reset owned opened : Disk}
  {root deep : Location}
  (built : Built layout sources before cleared reset owned opened after root deep project)

include built

/-- The path of a key is that of its staged file. -/
theorem pathOf?_eq {key : String} (member : key ∈ sources.keys) :
    project.pathOf? key = some (pathIn (ofNames (baseOf root deep key)) key) := by
  -- The keys of the files are those of the sources, which are distinct.
  have keys : project.files.map (·.key) = sources.keys := by
    rw [built.files, List.map_map]
    exact List.map_id _
  have distinct : (project.files.map (·.key)).Nodup := keys ▸ sources.distinct
  have staged : fileIn (baseOf root deep key) key ∈ project.files :=
    built.files ▸ List.mem_map_of_mem member
  -- The path of a key is looked up among the staged files, of which one has the key.
  have found := find?_of_mem (·.key) distinct staged
  simp only [fileIn] at found
  simp [Project.pathOf?, found]

/-- The roots of a project are spelled by plain names. -/
theorem plain_roots : (∀ name ∈ root, Path.isPlain name = true) ∧
    ∀ name ∈ deep, Path.isPlain name = true :=
  ⟨plain_of_entryAt? built.directory, plain_of_entryAt? built.deepDirectory⟩

/-- The roots of a project are paths from the root of the disk that never lead up. -/
theorem roots_level :
    (Path.isAbsolute project.stagingRoot = true ∧ .up ∉ Path.components project.stagingRoot) ∧
      Path.isAbsolute project.dependencyRoot = true ∧
        .up ∉ Path.components project.dependencyRoot := by
  obtain ⟨plain, plainDeep⟩ := built.plain_roots
  rw [built.stagingRoot, built.dependencyRoot, Path.components_ofNames plain,
    Path.components_ofNames plainDeep]
  -- Names are all that they are made of.
  simp

/-- The key of every staged file has passed the check. -/
theorem stageable_file {file : StagedFile} (member : file ∈ project.files) :
    Key.isStageable file.key = true := by
  rw [built.files] at member
  obtain ⟨key, known, rfl⟩ := List.mem_map.1 member
  exact built.stageable key known

end Built

/-- The path of every staged file starts at the root of the disk. -/
theorem build_absolute {layout : Layout} {project : Project} {world final : World}
    (ended : build layout sources world = .ok project final) :
    ∀ file ∈ project.files, Path.isAbsolute file.path = true := by
  intro file member
  obtain ⟨cleared, reset, owned, opened, root, deep, built⟩ := build_ok ended
  rw [built.files] at member
  obtain ⟨key, inside, rfl⟩ := List.mem_map.1 member
  -- The tree of a key is an absolute path, and the file lies below it.
  have filled := Path.ofNames_ne_empty (baseOf root deep key)
  exact (isAbsolute_pathIn (built.stageable key inside) filled).trans (Path.isAbsolute_ofNames _)

end AuditStage.Staging
