import AuditStage.Proofs.Staging.Build
import AuditStage.Proofs.Disk.Alike
import Mathlib.Data.List.Sort
import Mathlib.Data.String.Basic

/-! The packages of a project: those of its keys, and those found beside them in the dependency root. -/

namespace AuditStage.Staging

open AuditStage.Path (ofNames)

variable {sources : SourceMap} {package : String}

/-- The packages found among entries are the directories with the mark at their front. -/
theorem mem_packagesFound {entries : List (String × Entry)} :
    package ∈ packagesFound entries ↔
      (package, .directory) ∈ entries ∧ package.toList.head? = some Key.packageMark := by
  -- Putting the names in order neither adds one nor loses one.
  simp only [packagesFound, List.mem_mergeSort, List.mem_filterMap, Option.ite_none_right_eq_some,
    Option.some.injEq, Prod.exists, Bool.and_eq_true, decide_eq_true_eq]
  constructor
  · rintro ⟨name, entry, member, ⟨rfl, marked⟩, rfl⟩
    exact ⟨member, marked⟩
  · rintro ⟨member, marked⟩
    exact ⟨package, .directory, member, ⟨rfl, marked⟩, rfl⟩

/-- The packages found among entries that differ come in the order of their names, each once. -/
theorem pairwise_packagesFound {entries : List (String × Entry)} (distinct : entries.Nodup) :
    (packagesFound entries).Pairwise (· < ·) := by
  have sorted {names : List String} (unique : names.Nodup) :
      (names.mergeSort fun a b => decide (a ≤ b)).Pairwise (· < ·) := by
    have rising : (names.mergeSort fun a b => decide (a ≤ b)).Pairwise (· ≤ ·) :=
      List.pairwise_mergeSort' (· ≤ ·) names
    have still : (names.mergeSort fun a b => decide (a ≤ b)).Nodup :=
      (List.mergeSort_perm _ _).nodup_iff.2 unique
    exact (rising.and still).imp fun both => lt_of_le_of_ne both.1 both.2
  -- Directories that differ have names that differ.
  refine sorted (distinct.filterMap fun one two name first second => ?_)
  simp only [Option.mem_def, Option.ite_none_right_eq_some, Option.some.injEq, Bool.and_eq_true,
    decide_eq_true_eq] at first second
  exact Prod.ext (first.2.trans second.2.symm) (first.1.1.trans second.1.1.symm)

/-- What lies directly inside a location has a proper name. -/
theorem isName_of_mem_children {disk : Disk} {location : Location} {name : String} {entry : Entry}
    (member : (name, entry) ∈ disk.children location) : Disk.isName name = true := by
  obtain ⟨item, inside, listed⟩ := List.mem_filterMap.1 member
  -- The disk holds entries with proper names only.
  obtain ⟨parent, label, rooted, named, -⟩ := disk.tree item inside
  simp only [rooted, List.getLast?_concat] at listed
  split at listed
  · cases listed
    exact named
  · cases listed

/-- What a path lists lies directly inside the location that it leads to. -/
theorem exists_children_of_listing {disk : Disk} {path : String} {found : List (String × Entry)}
    (listed : disk.listing path = .ok found) :
    ∃ location, disk.resolve path = .ok location ∧ found = disk.children location := by
  unfold Disk.listing at listed
  -- A path that leads nowhere, or to no directory, is not listed.
  cases resolved : disk.resolve path with
  | error error => simp [resolved, bind, Except.bind] at listed
  | ok location =>
    simp only [resolved, bind, Except.bind] at listed
    split at listed
    · cases listed
      exact ⟨location, rfl, rfl⟩
    · cases listed

/-- A path made of names lists what lies directly inside the directory that it spells. -/
theorem children_of_listing {disk : Disk} {location : Location} {found : List (String × Entry)}
    (directory : disk.entryAt? location = some .directory)
    (listed : disk.listing (ofNames location) = .ok found) : found = disk.children location := by
  obtain ⟨place, resolved, rfl⟩ := exists_children_of_listing listed
  obtain ⟨spare, walked⟩ := follow_of_resolve_names (plain_of_entryAt? directory) resolved
  -- The names lead straight down to the directory.
  have straight : disk.follow Disk.linkLimit [] location = .ok (location, Disk.linkLimit) :=
    Disk.follow_names rfl (.of_directory directory)
  rw [straight] at walked
  obtain rfl : location = place := congrArg Prod.fst (Except.ok.inj walked)
  rfl

/-- A project lists the packages of its keys, and behind them those that lie in the dependency root. -/
theorem build_libraries {layout : Layout} {project : Project} {world final : World}
    (ended : build layout sources world = .ok project final) :
    ∃ found, final.disk.listing project.dependencyRoot = .ok found ∧
      project.libraries = Key.packagesOf sources.keys ++
        (packagesFound found).filter (!(Key.packagesOf sources.keys).contains ·) := by
  obtain ⟨-, text, reset, -, staging⟩ := build_stages ended
  obtain ⟨staged, owned, dependencyRoot, preexisted, opened, -, -, finishing⟩ := stage_ok staging
  -- Only the last part of a build looks at the packages.
  obtain ⟨all, filled, found, -, -, listed, rfl⟩ := finish_staged finishing
  exact ⟨found, listed, rfl⟩

/-- The packages of a project's keys come first, in the order in which they appear, and behind them, in the
order of their names, come the other directories with the mark at their front that lie in the dependency
root. -/
theorem libraries_eq {layout : Layout} {project : Project} {world final : World}
    (ended : build layout sources world = .ok project final) :
    ∃ deep beside, final.disk.resolve layout.dependencyRoot = .ok deep ∧
      project.dependencyRoot = ofNames deep ∧ (∀ name ∈ deep, Path.isPlain name = true) ∧
      project.libraries = (sources.keys.filterMap Key.package?).eraseDups ++ beside ∧
      beside.Pairwise (· < ·) ∧ ∀ package, package ∈ beside ↔
        final.disk.entryAt? (deep ++ [package]) = some .directory ∧
          package.toList.head? = some Key.packageMark ∧
          ∀ key ∈ sources.keys, Key.package? key ≠ some package := by
  obtain ⟨_, _, _, _, _, deep, built⟩ := build_ok ended
  obtain ⟨found, listed, libraries⟩ := build_libraries ended
  -- What is listed is the directory that the dependency root has been found to be.
  have directory := built.filling.directory _ built.deepDirectory
  rw [built.dependencyRoot] at listed
  obtain rfl := children_of_listing directory listed
  refine ⟨deep, _, built.filling.resolve built.deepened, built.dependencyRoot,
    built.plain_roots.2, by rw [libraries, Key.packagesOf_eq], ?_, fun package => ?_⟩
  · exact (pairwise_packagesFound (Disk.nodup_children _ _)).filter _
  · rw [← Key.packagesOf_eq, List.mem_filter, mem_packagesFound, Disk.mem_children_iff, and_assoc]
    simp [Key.mem_packagesOf]

/-- The packages of a project are those of its keys and the directories with the mark at their front that
lie in the dependency root. -/
theorem mem_libraries_iff {layout : Layout} {project : Project} {world final : World}
    (ended : build layout sources world = .ok project final) :
    ∃ deep, project.dependencyRoot = ofNames deep ∧ (∀ name ∈ deep, Path.isPlain name = true) ∧
      ∀ package, package ∈ project.libraries ↔ package ∈ Key.packagesOf sources.keys ∨
        (final.disk.entryAt? (deep ++ [package]) = some .directory ∧
          package.toList.head? = some Key.packageMark) := by
  obtain ⟨deep, beside, -, named, plain, libraries, -, found⟩ := libraries_eq ended
  refine ⟨deep, named, plain, fun package => ?_⟩
  -- A package that is found is listed behind those of the keys, unless it is one of them.
  rw [libraries, ← Key.packagesOf_eq, List.mem_append, found]
  by_cases own : package ∈ Key.packagesOf sources.keys
  · simp [own]
  · have other : ∀ key ∈ sources.keys, Key.package? key ≠ some package := fun key member belongs =>
      own (Key.mem_packagesOf.2 ⟨key, member, belongs⟩)
    simp only [own, false_or, and_iff_left other]

/-- No package of a project is listed twice. -/
theorem nodup_libraries {layout : Layout} {project : Project} {world final : World}
    (ended : build layout sources world = .ok project final) :
    project.libraries.Nodup := by
  obtain ⟨deep, beside, -, -, -, libraries, sorted, found⟩ := libraries_eq ended
  rw [libraries, ← Key.packagesOf_eq, List.nodup_append]
  refine ⟨Key.nodup_packagesOf _, sorted.imp ne_of_lt, fun package own other member => ?_⟩
  -- What is found beside the packages of the keys is none of them.
  rintro rfl
  obtain ⟨key, known, belongs⟩ := Key.mem_packagesOf.1 own
  exact ((found package).1 member).2.2 key known belongs

/-- The packages of a project are plain names with the mark at their front. -/
theorem marked_of_mem_libraries {layout : Layout} {project : Project} {world final : World}
    (ended : build layout sources world = .ok project final) (member : package ∈ project.libraries) :
    Path.isPlain package = true ∧ package.toList.head? = some Key.packageMark := by
  obtain ⟨found, listed, libraries⟩ := build_libraries ended
  rw [libraries, List.mem_append] at member
  rcases member with own | beside
  · -- The package of a key is the part before its first slash.
    obtain ⟨key, -, belongs⟩ := Key.mem_packagesOf.1 own
    obtain ⟨-, -, -, -, marked⟩ := Key.package_split belongs
    exact ⟨Key.isPlain_package belongs, marked⟩
  · obtain ⟨inside, marked⟩ := mem_packagesFound.1 (List.mem_filter.1 beside).1
    obtain ⟨location, -, rfl⟩ := exists_children_of_listing listed
    exact ⟨Disk.isPlain_of_isName (isName_of_mem_children inside), marked⟩

end AuditStage.Staging
