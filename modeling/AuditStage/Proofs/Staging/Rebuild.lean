import AuditStage.Proofs.Disk.Reset
import AuditStage.Proofs.Staging.Faithful
import Mathlib.Data.List.Sort
import Mathlib.Data.String.Basic

/-! Building a project again: what earlier builds have left in the staging root makes no difference. -/

namespace AuditStage

open Disk (Alike AlikeOutside Plain NamesOrMissing)
open Effect (Blind Ends)

/-- Two worlds have disks that are alike, whatever else there is in them. -/
def World.SameDisk (one two : World) : Prop :=
  Alike one.disk two.disk

namespace Run

open World (SameDisk)

variable {α β γ : Type}

/-- Adding to the log does not tell worlds apart by anything but their log. -/
theorem note_blind (level : Level) (text : String) : Blind SameDisk (note level text) :=
  fun _ _ same => .ok same

/-- Changing the disk comes to one end in two worlds if it does on their disks. -/
theorem onDisk_ends {action : Disk.Action α} {one two : World}
    (ends : Ends Alike (action one.disk) (action two.disk)) :
    Ends SameDisk (onDisk action one) (onDisk action two) := by
  -- What comes of the disks comes of the worlds.
  simp only [onDisk]
  generalize action one.disk = left at ends
  generalize action two.disk = right at ends
  cases ends with
  | ok alike => exact .ok alike
  | error alike => exact .error alike

/-- Changing the disk does not tell worlds apart if the change does not tell their disks apart. -/
theorem onDisk_blind {action : Disk.Action α} (blind : Blind Alike action) :
    Blind SameDisk (onDisk action) :=
  fun one two same => onDisk_ends (blind one.disk two.disk same)

/-- What is made of a reading is all that a run sees of the disk. -/
theorem fromDisk_bind {read : Disk → Except SystemError α} (look : α → γ) (next : γ → Run β)
    (alike : ∀ one two, Alike one two → (read one).map look = (read two).map look)
    (tail : ∀ seen, Blind SameDisk (next seen)) :
    Blind SameDisk (fromDisk read >>= fun value => next (look value)) := by
  intro one two same
  -- What is made of both readings is equal, or both of them fail.
  have seen := alike one.disk two.disk same
  cases left : read one.disk with
  | error error =>
    cases right : read two.disk with
    | error other =>
      -- Both readings fail, and in the same way.
      obtain rfl : error = other := by simpa [left, right, Except.map] using seen
      have failed {world : World} (fails : read world.disk = .error error) :
          fromDisk read world = .error (.io error) world := by simp [fromDisk, fails]
      rw [Effect.bind_of_error (failed left), Effect.bind_of_error (failed right)]
      exact .error same
    | ok value => simp [left, right, Except.map] at seen
  | ok value =>
    cases right : read two.disk with
    | error error => simp [left, right, Except.map] at seen
    | ok other =>
      have known : look value = look other := by simpa [left, right, Except.map] using seen
      have gave {world : World} {value : α} (gives : read world.disk = .ok value) :
          fromDisk read world = .ok value world := by simp [fromDisk, gives]
      rw [Effect.bind_of_ok (gave left), Effect.bind_of_ok (gave right), known]
      exact tail _ one two same

/-- A reading that gives one thing on disks that are alike does not tell worlds apart. -/
theorem fromDisk_blind {read : Disk → Except SystemError α}
    (alike : ∀ one two, Alike one two → read one = read two) : Blind SameDisk (fromDisk read) := by
  have reads : Blind SameDisk (fromDisk read >>= fun value => pure (id value)) :=
    fromDisk_bind id pure (fun one two same => congrArg _ (alike one two same)) fun value => .pure value
  rwa [show (fun value : α => (pure (id value) : Run α)) = pure from rfl, bind_pure] at reads

end Run

namespace Staging

open World (SameDisk)

/-- Making a root does not tell worlds apart. -/
theorem makeRoot_blind (root : String) : Blind SameDisk (makeRoot root) :=
  (Run.onDisk_blind (Disk.makeDirectories_blind root)).bind fun _ =>
    Run.fromDisk_blind fun _ _ alike => alike.canonical root

/-- Staging a file does not tell worlds apart. -/
theorem stageFile_blind (staged : List StagedFile) (file : StagedFile) (content : String) :
    Blind SameDisk (stageFile staged file content) := by
  unfold stageFile
  -- Whether the path is taken is told by the files staged so far, not by the disk.
  split
  · exact .throw _
  · exact (Run.onDisk_blind (Disk.writeFile_blind _ _)).bind fun _ => .pure _

/-- Staging the files that belong to no package does not tell worlds apart. -/
theorem stageOwn_blind (root : String) (sources : SourceMap) :
    Blind SameDisk (stageOwn root sources) := by
  -- What is done for a key depends on the key alone.
  refine .foldlM (fun file staged => ?_) _
  obtain ⟨key, content⟩ := file
  dsimp only
  split
  · exact .pure _
  · exact stageFile_blind _ _ _

/-- Staging the files of a package does not tell worlds apart. -/
theorem stagePackage_blind (root : String) (sources : SourceMap) (staged : List StagedFile)
    (package : String) : Blind SameDisk (stagePackage root sources staged package) := by
  refine (Run.onDisk_blind (Disk.makeDirectories_blind _)).bind fun _ =>
    .foldlM (fun file staged => ?_) _
  -- Of the keys, those of the package alone are staged here.
  obtain ⟨key, content⟩ := file
  dsimp only
  split
  · exact stageFile_blind _ _ _
  · exact .pure _

/-- Opening the dependency root does not tell worlds apart. -/
theorem openDependencyRoot_blind (layout : Layout) (stagingRoot : String) :
    Blind SameDisk (openDependencyRoot layout stagingRoot) := by
  unfold openDependencyRoot
  -- All that is looked at is whether there is a directory already.
  refine .get_bind (fun world => world.disk.isDirectory layout.dependencyRoot)
    (fun preexisted => do
      let root ← makeRoot layout.dependencyRoot
      if preexisted && !Path.isBelow root stagingRoot then
        Run.note .info ("Merging into existing dependency root " ++ root)
      return (root, preexisted))
    (fun one two (same : SameDisk one two) => Disk.Alike.isDirectory same _) fun preexisted => ?_
  -- Where the root lies and whether it was there before decide on the remark.
  refine (makeRoot_blind _).bind fun root => ?_
  split
  · exact (Run.note_blind _ _).bind fun _ => .pure _
  · exact .pure _

/-- Packages are found in any order of the entries, and come in the order of their names. -/
theorem packagesFound_perm {one two : List (String × Entry)} (same : one.Perm two) :
    packagesFound one = packagesFound two := by
  have sorted (names : List String) :
      (names.mergeSort fun a b => decide (a ≤ b)).Pairwise (· ≤ ·) :=
    List.pairwise_mergeSort' (· ≤ ·) names
  -- A list has one order in which it is sorted.
  refine List.Perm.eq_of_pairwise' (sorted _) (sorted _) ?_
  exact (List.mergeSort_perm _ _).trans ((same.filterMap _).trans (List.mergeSort_perm _ _).symm)

/-- The packages that are listed are the same on disks that are alike. -/
theorem packagesFound_alike {one two : Disk} (alike : Alike one two) (path : String) :
    (one.listing path).map packagesFound = (two.listing path).map packagesFound := by
  -- The listings are permutations of each other, which is lost once they are sorted.
  simp only [Disk.listing, alike.resolve, alike.entries]
  cases two.resolve path with
  | error error => rfl
  | ok location =>
    simp only [bind, Except.bind]
    split
    · simp only [Except.map, packagesFound_perm (alike.children location)]
    · rfl

/-- Staging the libraries does not tell worlds apart. -/
theorem finish_blind (stagingRoot dependencyRoot : String) (preexisted : Bool) (sources : SourceMap)
    (staged : List StagedFile) :
    Blind SameDisk (finish stagingRoot dependencyRoot preexisted sources staged) := by
  refine Blind.bind (.foldlM (fun package staged => stagePackage_blind _ _ _ _) _) fun staged => ?_
  -- Of what is listed in the dependency root, the names of packages alone are looked at.
  refine Run.fromDisk_bind packagesFound
    (fun found => do
      let packages := Key.packagesOf sources.keys
      let libraries := packages ++ found.filter (!packages.contains ·)
      let files := inOrder sources.keys staged
      Run.note .info ("Libraries detected: " ++ ", ".intercalate libraries)
      Run.note .info ("Staged " ++ toString files.length ++ " file(s) under " ++ stagingRoot)
      return (⟨stagingRoot, dependencyRoot, preexisted, files, libraries⟩ : Project))
    (fun _ _ alike => packagesFound_alike alike _) fun found => ?_
  exact (Run.note_blind _ _).bind fun _ => (Run.note_blind _ _).bind fun _ => .pure _

/-- What is done once the staging root has been made anew does not tell worlds apart. -/
theorem stage_blind (layout : Layout) (sources : SourceMap) (stagingRoot : String) :
    Blind SameDisk (stage layout sources stagingRoot) :=
  (stageOwn_blind _ _).bind fun _ => (openDependencyRoot_blind _ _).bind fun _ => finish_blind _ _ _ _ _

/-- Once the staging root has been made anew in the same way, a build comes to the same end. -/
theorem build_ends_of_reset {layout : Layout} {sources : SourceMap} {one two : World}
    (stageable : ∀ key ∈ sources.keys, Key.isStageable key = true)
    (reset : Ends SameDisk (resetRoot layout.stagingRoot one) (resetRoot layout.stagingRoot two)) :
    Ends SameDisk (build layout sources one) (build layout sources two) := by
  rw [build_eq, Effect.bind_of_ok (requireStageable_ok stageable one),
    Effect.bind_of_ok (requireStageable_ok stageable two)]
  exact reset.bind fun stagingRoot => stage_blind _ _ _

/-- Once the staging root has been cleared in the same way, a build comes to the same end. -/
theorem build_ends {layout : Layout} {sources : SourceMap} {one two : World}
    (stageable : ∀ key ∈ sources.keys, Key.isStageable key = true)
    (cleared : Ends Alike (Disk.clear layout.stagingRoot one.disk)
      (Disk.clear layout.stagingRoot two.disk)) :
    Ends SameDisk (build layout sources one) (build layout sources two) :=
  -- The worlds differ up to the point where the root is cleared, and from then on no more.
  build_ends_of_reset stageable ((Run.onDisk_ends cleared).bind fun _ => makeRoot_blind _)

/-- A build for a key that must not be staged is refused before the disk is touched. -/
theorem build_unfit {layout : Layout} {sources : SourceMap} {key : String} (world : World)
    (first : sources.keys.find? (!Key.isStageable ·) = some key) :
    build layout sources world = .error (.unsafePath key) world := by
  -- The keys are looked at before anything else.
  have refused : requireStageable sources.keys world = .error (.unsafePath key) world := by
    simp only [requireStageable, first]
    rfl
  exact Effect.bind_of_error refused

/-- Two builds of the same sources come to the same end on disks that differ in nothing but in what
lies in the staging root, or in whether it is there: they give the same project, or fail in the same
way, and leave disks that are alike. Only where a key must not be staged do both leave the disks as
they were. The path of the root has to name the same location on both disks, unless nothing lies
there on either of them. -/
theorem build_rebuilds (layout : Layout) (sources : SourceMap) {base : Location} {one two : World}
    (outside : AlikeOutside base one.disk two.disk) (plain : Plain one.disk base)
    (plain' : Plain two.disk base)
    (named : NamesOrMissing layout.stagingRoot base one.disk two.disk) :
    ((∀ key ∈ sources.keys, Key.isStageable key = true) →
      Ends SameDisk (build layout sources one) (build layout sources two)) ∧
    ∀ key, sources.keys.find? (!Key.isStageable ·) = some key →
      build layout sources one = .error (.unsafePath key) one ∧
        build layout sources two = .error (.unsafePath key) two :=
  ⟨fun stageable => build_ends stageable (outside.clear_alike plain plain' named),
    fun _ first => ⟨build_unfit one first, build_unfit two first⟩⟩

/-- A disk on which an earlier build has left a file in the staging root, and one without the root. -/
theorem usedDisk_alikeOutside : AlikeOutside ["work", "out"] usedDisk (.atHome ["work"]) := by
  unfold usedDisk
  exact ((AlikeOutside.refl (.atHome ["work"])).put ⟨[], rfl⟩ _).put ⟨["Old.sol"], rfl⟩ _

/-- On both of them the path of the staging root names it. -/
theorem usedDisk_names :
    NamesOrMissing "/work/out" ["work", "out"] usedDisk (.atHome ["work"]) := by
  have named {disk : Disk}
      (taken : disk.goal Disk.linkLimit [] ["work", "out"] = .ok (.named ["work"] "out")) :
      Disk.Names disk "/work/out" ["work", "out"] :=
    ⟨⟨true, ["work", "out"], false⟩, _, rfl, taken, rfl⟩
  exact .inl ⟨named (by decide), named (by decide)⟩

/-- There is a staging root on the one, and nothing in its place on the other. -/
theorem usedDisk_plain :
    Plain usedDisk ["work", "out"] ∧ Plain (.atHome ["work"]) ["work", "out"] :=
  ⟨.inr (by decide), .inl (by decide)⟩

/-- A world with a disk. -/
def worldWith (disk : Disk) : World :=
  .fresh disk (.scripted []) ⟨[], none⟩

/-- A build on a disk that an earlier one has left a file on ends like a build on a disk without it. -/
theorem usedDisk_rebuilds :
    ∃ project after after',
      build (.nested "/work/out") (.ofList [("A.sol", "contract A \x7b\x7d")]) (worldWith usedDisk) =
        .ok project after ∧
      build (.nested "/work/out") (.ofList [("A.sol", "contract A \x7b\x7d")])
        (worldWith (.atHome ["work"])) = .ok project after' ∧
      Alike after.disk after'.disk := by
  have stageable : ∀ key ∈ (SourceMap.ofList [("A.sol", "contract A \x7b\x7d")]).keys,
      Key.isStageable key = true := by decide +kernel
  have rebuilt := @build_rebuilds (.nested "/work/out") (.ofList [("A.sol", "contract A \x7b\x7d")])
    ["work", "out"] (worldWith usedDisk) (worldWith (.atHome ["work"])) usedDisk_alikeOutside
    usedDisk_plain.1 usedDisk_plain.2 usedDisk_names
  have well : (match build (.nested "/work/out") (.ofList [("A.sol", "contract A \x7b\x7d")])
      (worldWith usedDisk) with
    | .ok _ _ => true
    | .error _ _ => false) = true := by decide +kernel
  -- A run on the one disk ends well, and so does the other.
  split at well
  · rename_i project after ended
    obtain ⟨after', ended', alike⟩ := (rebuilt.1 stageable).ok_of_ok ended
    exact ⟨project, after, after', ended, ended', alike⟩
  · cases well

/-- Where a key must not be staged, what an earlier build has left stays where it is. -/
theorem not_rebuilds_usedDisk :
    ¬ ∀ (root : String) (base : Location) (sources : SourceMap) (one two : World),
      AlikeOutside base one.disk two.disk → Plain one.disk base → Plain two.disk base →
      NamesOrMissing root base one.disk two.disk → ∀ names,
        (Effect.after (build (.nested root) sources) one).disk.entryAt? (base ++ names) =
          (Effect.after (build (.nested root) sources) two).disk.entryAt? (base ++ names) := by
  intro rebuilds
  -- A key that leads up is refused on both disks, one of which has a file of an earlier build.
  have same := rebuilds "/work/out" ["work", "out"] (.ofList [("../A.sol", "contract A \x7b\x7d")])
    (worldWith usedDisk) (worldWith (.atHome ["work"])) usedDisk_alikeOutside usedDisk_plain.1
    usedDisk_plain.2 usedDisk_names ["Old.sol"]
  -- Both builds are refused, and a refused build leaves its world as it was.
  have first : (SourceMap.ofList [("../A.sol", "contract A \x7b\x7d")]).keys.find?
      (!Key.isStageable ·) = some "../A.sol" := by decide +kernel
  have refused (disk : Disk) : Effect.after (build (.nested "/work/out")
      (.ofList [("../A.sol", "contract A \x7b\x7d")])) (worldWith disk) = worldWith disk :=
    Effect.after_error (build_unfit _ first)
  simp only [refused] at same
  revert same
  decide +kernel

end Staging

end AuditStage
