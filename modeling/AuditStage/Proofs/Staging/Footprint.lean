import AuditStage.Proofs.Staging.Key
import AuditStage.Proofs.World
import Mathlib.Order.RelClasses

/-! Where the staging of files leaves its traces: only where a key leads from its tree. -/

namespace AuditStage.Staging

open Disk (Grows Adds dropDots linkLimit)
open Effect (Keeps)
open AuditStage.Path (ofNames)

variable {before after : Disk} {base location : Location} {keys : List String} {path : String}

/-- Where an absolute path leads, its steps lead from the root, the dots apart. -/
theorem follow_of_resolve_absolute {disk : Disk} (absolute : Path.isAbsolute path = true)
    (resolved : disk.resolve path = .ok location) :
    ∃ spare, disk.follow linkLimit [] (dropDots (Path.steps path)) = .ok (location, spare) := by
  obtain ⟨-, spare, walked⟩ := Disk.resolve_ok_iff.1 resolved
  -- The walk of an absolute path starts at the root of the disk.
  have root : disk.start (Route.ofPath path) = [] := if_pos absolute
  have walked := Disk.follow_dropDots walked
  rw [Disk.dropDots_allSteps, root] at walked
  exact ⟨spare, walked⟩

/-- Where a path made of names leads, its names lead from the root. -/
theorem follow_of_resolve_names {disk : Disk} {names : List String}
    (plain : ∀ name ∈ names, Path.isPlain name = true)
    (resolved : disk.resolve (ofNames names) = .ok location) :
    ∃ spare, disk.follow linkLimit [] names = .ok (location, spare) := by
  have walked := follow_of_resolve_absolute (Path.isAbsolute_ofNames names) resolved
  rwa [Path.steps_ofNames plain, Disk.dropDots_plain plain] at walked

/-- What lies on a disk has plain names on its way. -/
theorem plain_of_entryAt? {disk : Disk} {entry : Entry} (found : disk.entryAt? location = some entry) :
    ∀ name ∈ location, Path.isPlain name = true :=
  fun name member => Disk.isPlain_of_isName (Disk.isName_of_entryAt? found name member)

/-- Names that lead through a directory to something new take a name from there at least. -/
theorem names_of_follow {rest above : List String} {spare : Nat}
    (directory : before.entryAt? base = some .directory) (grows : Grows before after)
    (shorter : above <+: base ++ rest)
    (walked : after.follow linkLimit [] above = .ok (location, spare))
    (free : before.entryAt? location = none) :
    ∃ names, names ≠ [] ∧ names <+: rest ∧
      after.follow linkLimit [] (base ++ names) = .ok (location, spare) := by
  -- The names up to the directory lead to what was there before.
  have old (inside : above <+: base) : False := by
    obtain ⟨below, rfl⟩ := inside
    have held : before.entryAt? above = some .directory := by
      by_cases last : below = []
      · simpa [last] using directory
      · exact Disk.entryAt?_above directory last
    have there : before.follow linkLimit [] above = .ok (above, linkLimit) :=
      Disk.follow_names rfl (.of_directory held)
    rw [grows.follow there] at walked
    obtain rfl : above = location := congrArg Prod.fst (Except.ok.inj walked)
    simp [held] at free
  -- Either the names stop before they are past the directory, or they go on from it.
  rcases List.prefix_or_prefix_of_prefix shorter (List.prefix_append base rest) with inside | beyond
  · exact (old inside).elim
  · obtain ⟨names, rfl⟩ := beyond
    refine ⟨names, ?_, (List.prefix_append_right_inj base).1 shorter, walked⟩
    rintro rfl
    exact old (by simp)

/-- The paths that are made directories for the files of some keys: their steps lead down from the root
towards one of the files. -/
def Made (base : Location) (keys : List String) (path : String) : Prop :=
  ∃ key ∈ keys, Path.isAbsolute path = true ∧
    dropDots (Path.steps path) <+: base ++ (Key.names key).dropLast

/-- The paths of the files of some keys. -/
def Written (base : Location) (keys : List String) (path : String) : Prop :=
  ∃ key ∈ keys, path = pathIn (ofNames base) key

/-- Where the path of a key's file leads, the names of its tree and those of the key lead. -/
theorem follow_of_resolve_pathIn {disk : Disk} {key : String}
    (plain : ∀ name ∈ base, Path.isPlain name = true) (stageable : Key.isStageable key = true)
    (resolved : disk.resolve (pathIn (ofNames base) key) = .ok location) :
    ∃ spare, disk.follow linkLimit [] (base ++ Key.names key) = .ok (location, spare) := by
  have absolute : Path.isAbsolute (pathIn (ofNames base) key) = true := by
    rw [isAbsolute_pathIn stageable (Path.ofNames_ne_empty base), Path.isAbsolute_ofNames]
  have walked := follow_of_resolve_absolute absolute resolved
  rwa [steps_pathIn stageable, Path.steps_ofNames plain, Disk.dropDots_append,
    Disk.dropDots_plain plain] at walked

/-- What is new on a disk after files have been staged is where the first names of a key lead: a
directory, or where all of its names lead, a file. -/
theorem traced (directory : before.entryAt? base = some .directory)
    (stageable : ∀ key ∈ keys, Key.isStageable key = true)
    (adds : Adds (Made base keys) (Written base keys) before after)
    (changed : after.entryAt? location ≠ before.entryAt? location) :
    ∃ key ∈ keys, ∃ names spare, names ≠ [] ∧ names <+: Key.names key ∧
      after.follow linkLimit [] (base ++ names) = .ok (location, spare) ∧
      ((names ≠ Key.names key ∧ after.entryAt? location = some .directory) ∨
        (names = Key.names key ∧ ∃ content, after.entryAt? location = some (.file content))) := by
  obtain ⟨path, resolved, ⟨⟨key, member, absolute, shorter⟩, free, found⟩ |
    ⟨⟨key, member, rfl⟩, written⟩⟩ := adds.reached location changed
  · -- A directory was made for a proper part of the key's names.
    obtain ⟨spare, walked⟩ := follow_of_resolve_absolute absolute resolved
    obtain ⟨names, further, inside, walked⟩ :=
      names_of_follow directory adds.toGrows shorter walked free
    refine ⟨key, member, names, spare, further, inside.trans (List.dropLast_prefix _), walked,
      .inl ⟨?_, found⟩⟩
    rintro rfl
    have bound := inside.length_le
    have some := List.length_pos_iff.2 further
    simp only [List.length_dropLast] at bound
    omega
  · -- A file was written where all of them lead.
    have fits := stageable key member
    obtain ⟨spare, walked⟩ := follow_of_resolve_pathIn (plain_of_entryAt? directory) fits resolved
    exact ⟨key, member, Key.names key, spare, Key.names_ne_nil fits, List.prefix_rfl, walked,
      .inr ⟨rfl, written⟩⟩

/-- What an action adds to the disk, a run that does it adds. -/
theorem onDisk_adds {α : Type} {related : Disk → Disk → Prop} {action : Disk.Action α}
    (keeps : Keeps related action) : Keeps (Order.Preimage World.disk related) (Run.onDisk action) := by
  intro world
  have kept := keeps world.disk
  -- The run is left with the disk of the action, whether or not that fails.
  cases ended : action world.disk with
  | ok value disk =>
    rw [Effect.after_ok ended] at kept
    simp only [Effect.after, Run.onDisk, ended]
    exact kept
  | error error disk =>
    rw [Effect.after_error ended] at kept
    simp only [Effect.after, Run.onDisk, ended]
    exact kept

/-- A run that leaves the disk alone adds nothing to it. -/
theorem same_adds {α : Type} {related : Disk → Disk → Prop} [IsPreorder Disk related] {run : Run α}
    (keeps : Keeps (Effect.Same World.disk) run) : Keeps (Order.Preimage World.disk related) run := by
  intro world
  show related world.disk (Effect.after run world).disk
  exact (keeps world : (Effect.after run world).disk = world.disk).symm ▸ refl_of related world.disk

/-- The traces that the staging of some keys may leave. -/
def Treads (base : Location) (keys : List String) : World → World → Prop :=
  Order.Preimage World.disk (Adds (Made base keys) (Written base keys))

instance (base : Location) (keys : List String) : IsPreorder World (Treads base keys) :=
  inferInstanceAs (IsPreorder World (Order.Preimage World.disk _))

variable (plain : ∀ name ∈ base, Path.isPlain name = true)
  (stageable : ∀ key ∈ keys, Key.isStageable key = true)

include plain stageable

/-- Staging the file of a key treads where the key leads. -/
theorem stageFile_treads {key : String} (member : key ∈ keys) (staged : List StagedFile)
    {file : StagedFile} (stands : file.path = pathIn (ofNames base) key) (content : String) :
    Keeps (Treads base keys) (stageFile staged file content) := by
  -- What is written is the file and the directories above it.
  unfold stageFile
  split
  · exact .throw _
  · refine .bind (onDisk_adds ((Disk.writeFile_adds _ _).mono fun _ _ adds => ?_)) fun _ => .pure _
    refine adds.mono (fun path inside => ?_) fun path same => ⟨key, member, same.trans stands⟩
    rw [stands] at inside
    exact ⟨key, member, of_mem_pathsAbove_pathIn plain (stageable key member) inside⟩

/-- Staging the files of no package treads where their keys lead. -/
theorem stageOwn_treads {sources : SourceMap}
    (covered : ∀ key ∈ sources.keys, Key.package? key = none → key ∈ keys) :
    Keeps (Treads base keys) (stageOwn (ofNames base) sources) := by
  refine .foldlM (fun (key, content) known staged => ?_) []
  dsimp only
  split
  · exact .pure _
  · -- Only a key that belongs to no package is staged here.
    rename_i belongs
    have member := covered key (List.mem_map_of_mem known) belongs
    exact stageFile_treads plain stageable member staged (by simp [pathIn, belongs]) content

/-- Staging a package treads where the keys of the package lead. -/
theorem stagePackage_treads {sources : SourceMap} {package : String}
    (named : Path.isPlain package = true)
    (covered : ∀ key ∈ sources.keys, Key.package? key = some package → key ∈ keys)
    (present : ∃ key ∈ sources.keys, Key.package? key = some package) (staged : List StagedFile) :
    Keeps (Treads base keys) (stagePackage (ofNames base) sources staged package) := by
  unfold stagePackage
  have directory : Path.join (ofNames base) package = ofNames (base ++ [package]) :=
    Path.join_ofNames plain named
  refine .bind (onDisk_adds ((Disk.makeDirectories_adds _).mono fun _ _ adds => ?_)) fun _ => ?_
  · -- The directory of the package stands on the way to every file in it.
    obtain ⟨key, known, belongs⟩ := present
    have member := covered key known belongs
    refine adds.mono (fun path inside => ?_) fun _ never => never.elim
    have all : ∀ name ∈ base ++ [package], Path.isPlain name = true := by
      intro name inside
      rcases List.mem_append.1 inside with old | new
      · exact plain name old
      · exact List.mem_singleton.1 new ▸ named
    rw [directory] at inside
    obtain ⟨absolute, shorter⟩ :=
      Path.prefix_of_mem_pathsAbove (Path.isAbsolute_ofNames _) inside
    rw [Path.steps_ofNames all, Disk.dropDots_plain all] at shorter
    refine ⟨key, member, absolute, shorter.trans ?_⟩
    obtain ⟨name, rest, split⟩ := Key.names_package (stageable key member) belongs
    exact (List.prefix_append_right_inj base).2 (by simp [split])
  · -- Behind the directory come the files of the package, and other keys are passed over.
    refine .foldlM (fun (key, content) known staged => ?_) staged
    dsimp only
    split
    · rename_i belongs
      have member := covered key (List.mem_map_of_mem known) belongs
      exact stageFile_treads plain stageable member staged (by simp [pathIn, belongs]) content
    · exact .pure _

end AuditStage.Staging
