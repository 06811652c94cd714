import AuditStage.Proofs.Staging.Build
import AuditStage.Proofs.Staging.Contained
import Mathlib.Data.List.Nodup

/-! Keys whose files would stand at one path: a build never comes to its end with two of them, and it
complains of such keys only where there are two. -/

namespace AuditStage.Staging

open Disk (Adds Grows)
open Effect (Fails Keeps)
open AuditStage.Path (ofNames)

variable {layout : Layout} {sources : SourceMap} {disk : Disk} {root deep base : Location}
  {key other path stagingRoot : String} {packages : List String} {chosen : String → Bool}
  {staged : List StagedFile} {cause : Malformed} {world final : World}

/-- The path at which the file of a key is staged, on a disk on which its root has been made. -/
def StagedAt (layout : Layout) (disk : Disk) (key path : String) : Prop :=
  ∃ root, disk.canonical (treeOf layout key) = .ok root ∧ path = pathIn root key

/-- Two keys are staged at one path, component by component, however the keys are spelled. -/
def Collide (layout : Layout) (disk : Disk) (key other : String) : Prop :=
  key ≠ other ∧ ∃ path path', StagedAt layout disk key path ∧ StagedAt layout disk other path' ∧
    Path.components path = Path.components path'

/-- Where the root of a key leads to a location, the file of the key is staged in the tree there. -/
theorem stagedAt_iff (resolved : disk.resolve (treeOf layout key) = .ok base) :
    StagedAt layout disk key path ↔ path = pathIn (ofNames base) key := by
  simp only [StagedAt, Disk.canonical_ok_iff, resolved, Except.ok.injEq]
  -- The root has one canonical path, which is spelled with the names of its location.
  constructor
  · rintro ⟨_, ⟨_, rfl, rfl⟩, rfl⟩
    rfl
  · rintro rfl
    exact ⟨_, ⟨base, rfl, rfl⟩, rfl⟩

/-- The roots of a layout lead to locations. -/
structure Rooted (layout : Layout) (disk : Disk) (root deep : Location) : Prop where
  staging : disk.resolve layout.stagingRoot = .ok root
  dependency : disk.resolve layout.dependencyRoot = .ok deep

/-- The root of a key leads to the location of its tree. -/
theorem Rooted.tree (rooted : Rooted layout disk root deep) (key : String) :
    disk.resolve (treeOf layout key) = .ok (baseOf root deep key) := by
  unfold treeOf baseOf
  split
  · exact rooted.dependency
  · exact rooted.staging

/-- The roots of a build that has come to its end lead to locations. -/
theorem Built.rooted_after {project : Project} {before cleared reset owned opened after : Disk}
    (built : Built layout sources before cleared reset owned opened after root deep project) :
    Rooted layout after root deep where
  staging :=
    have opening : Adds _ _ owned opened := (Disk.makeDirectories_adds _).of_ok built.opening
    built.filling.resolve (opening.resolve (built.owning.resolve built.rooted))
  dependency := built.filling.resolve built.deepened

/-- In a build that has come to its end, files of different keys stand at different paths. -/
theorem Built.nodup_components {project : Project} {before cleared reset owned opened after : Disk}
    (built : Built layout sources before cleared reset owned opened after root deep project) :
    (project.files.map fun file => Path.components file.path).Nodup := by
  -- The keys are distinct, and each file has one of them.
  have listed : project.files.Nodup := by
    rw [built.files]
    exact List.Nodup.map (fun _ _ same => congrArg StagedFile.key same) sources.distinct
  -- The files are listed once each, and two that are not the same stand apart.
  refine List.Nodup.map_on (fun file known other member same => ?_) listed
  by_contra different
  exact built.standing.apart file known other member different same

/-- The file of a key finds that the one of another key stands at its path. -/
def Claimed (owner : StagedFile) (base : Location) (key : String) (cause : Malformed) : Prop :=
  cause = .sharedPath owner.key key (pathIn (ofNames base) key) ∧
    Path.components owner.path = Path.components (pathIn (ofNames base) key)

/-- Where the staging of chosen keys complains, one of them is led to a file staged before, or to the
file of another one of them. -/
theorem stageChosen_claimed {files : List (String × String)} (distinct : (pathsOf files).Nodup)
    (ended : stageChosen base chosen files staged world = .error (.malformedSourceMap cause) final) :
    ∃ key ∈ pathsOf files, chosen key = true ∧ ∃ owner, Claimed owner base key cause ∧
      (owner ∈ staged ∨ ∃ earlier ∈ pathsOf files, earlier ≠ key ∧ chosen earlier = true ∧
        owner = fileIn base earlier) := by
  obtain ⟨front, key, content, back, between, rfl, chose, failed⟩ := stageChosen_error ended
  -- A failure of the disk is no complaint, so the path was taken.
  rcases stageFile_error failed with ⟨error, io⟩ | ⟨owner, standing, same, path, -⟩
  · cases io
  refine ⟨key, by simp [pathsOf], chose, owner, ⟨Failure.malformedSourceMap.inj same, path⟩, ?_⟩
  refine (List.mem_append.1 standing).imp_right fun before => ?_
  obtain ⟨earlier, member, chose', rfl⟩ := mem_chosenIn.1 before
  -- The keys are told apart by where they stand among the sources.
  refine ⟨earlier, by simp [pathsOf] at member ⊢; exact .inl member, ?_, chose', rfl⟩
  rintro rfl
  simp only [pathsOf, List.map_append, List.map_cons, List.nodup_append] at distinct member
  exact distinct.2.2 _ member _ (by simp) rfl

/-- Where the staging of a package complains, one of its keys is led to a file staged before, or to the
file of another one of them. -/
theorem stagePackage_claimed {package : String}
    (ended : stagePackage (ofNames deep) sources staged package world =
      .error (.malformedSourceMap cause) final) :
    ∃ key ∈ sources.keys, Key.package? key = some package ∧ ∃ owner, Claimed owner deep key cause ∧
      (owner ∈ staged ∨ ∃ earlier ∈ sources.keys, earlier ≠ key ∧ (Key.package? earlier).isSome ∧
        owner = fileIn deep earlier) := by
  rw [stagePackage_eq] at ended
  rcases Effect.bind_error ended with made | ⟨_, between, -, filling⟩
  · -- Making the directory of the package never complains of a key.
    obtain ⟨error, io⟩ := Run.onDisk_error made
    cases io
  obtain ⟨key, member, belongs, owner, claimed, standing⟩ := stageChosen_claimed sources.distinct filling
  refine ⟨key, member, beq_iff_eq.1 belongs, owner, claimed, standing.imp_right ?_⟩
  rintro ⟨earlier, known, different, belongs', rfl⟩
  exact ⟨earlier, known, different, by simp [beq_iff_eq.1 belongs'], rfl⟩

/-- Where the staging of packages complains, a key of theirs is led to a file staged before, or to the
file of another key of theirs. -/
theorem packages_claimed (distinct : packages.Nodup)
    (ended : packages.foldlM (stagePackage (ofNames deep) sources) staged world =
      .error (.malformedSourceMap cause) final) :
    ∃ key ∈ sources.keys, (∃ package ∈ packages, Key.package? key = some package) ∧
      ∃ owner, Claimed owner deep key cause ∧ (owner ∈ staged ∨ ∃ earlier ∈ sources.keys,
        earlier ≠ key ∧ (Key.package? earlier).isSome ∧ owner = fileIn deep earlier) := by
  induction packages generalizing staged world with
  | nil => cases ended
  | cons package packages ih =>
    obtain ⟨absent, distinct⟩ := List.nodup_cons.1 distinct
    rw [List.foldlM_cons] at ended
    rcases Effect.bind_error ended with first | ⟨next, between, first, others⟩
    · obtain ⟨key, member, belongs, claimed⟩ := stagePackage_claimed first
      exact ⟨key, member, ⟨package, List.mem_cons_self, belongs⟩, claimed⟩
    obtain ⟨key, member, ⟨later, known, belongs⟩, owner, claimed, standing⟩ := ih distinct others
    refine ⟨key, member, ⟨later, List.mem_cons_of_mem _ known, belongs⟩, owner, claimed, ?_⟩
    -- What stands before the later packages stood before this one, or is one of its files.
    rcases standing with standing | standing
    swap
    · exact .inr standing
    rw [stagePackage_eq] at first
    obtain ⟨_, made, -, filled⟩ := Effect.bind_ok first
    rw [eq_of_stageChosen filled] at standing
    refine (List.mem_append.1 standing).imp_right fun before => ?_
    obtain ⟨earlier, known', chose, rfl⟩ := mem_chosenIn.1 before
    have belongs' : Key.package? earlier = some package := beq_iff_eq.1 chose
    refine ⟨earlier, known', ?_, by simp [belongs'], rfl⟩
    -- A key of this package is another one than a key of a later package.
    rintro rfl
    obtain rfl : package = later := Option.some.inj (belongs'.symm.trans belongs)
    exact absent known

/-- The staging of the libraries complains of a key only as the staging of their packages does. -/
theorem finish_claimed {preexisted : Bool}
    (ended : finish stagingRoot (ofNames deep) preexisted sources staged world =
      .error (.malformedSourceMap cause) final) :
    ∃ key ∈ sources.keys, (Key.package? key).isSome ∧ ∃ owner, Claimed owner deep key cause ∧
      (owner ∈ staged ∨ ∃ earlier ∈ sources.keys, earlier ≠ key ∧ (Key.package? earlier).isSome ∧
        owner = fileIn deep earlier) := by
  rcases Effect.bind_error ended with filled | ⟨all, between, -, ended⟩
  · obtain ⟨key, member, ⟨package, -, belongs⟩, claimed⟩ :=
      packages_claimed (Key.nodup_packagesOf _) filled
    exact ⟨key, member, by simp [belongs], claimed⟩
  -- What comes after the packages reads the disk and writes to the log.
  rcases Effect.bind_error ended with listed | ⟨found, after, -, ended⟩
  · obtain ⟨error, io⟩ := Run.fromDisk_error listed
    cases io
  · cases ended

/-- Making a root fails for the reason that the disk gives. -/
theorem makeRoot_fails (path : String) :
    Fails (fun failure => ∃ error, failure = .io error) (makeRoot path) :=
  .bind (fun _ _ _ => Run.onDisk_error) fun _ _ _ _ => Run.fromDisk_error

/-- Making the staging root anew fails for the reason that the disk gives. -/
theorem resetRoot_fails (path : String) :
    Fails (fun failure => ∃ error, failure = .io error) (resetRoot path) :=
  .bind (fun _ _ _ => Run.onDisk_error) fun _ => makeRoot_fails path

/-- Opening the dependency root fails for the reason that the disk gives. -/
theorem openDependencyRoot_fails (layout : Layout) (stagingRoot : String) :
    Fails (fun failure => ∃ error, failure = .io error) (openDependencyRoot layout stagingRoot) := by
  refine .bind .get fun world => (makeRoot_fails _).bind fun root => ?_
  -- The remark in the log never fails.
  split
  · exact .bind (.of_ok fun _ => ⟨_, _, rfl⟩) fun _ => .pure _
  · exact .pure _

/-- What a build complains of: a key and the one before it whose file stands at the same path. -/
def Complains (layout : Layout) (keys : List String) (disk : Disk) (cause : Malformed) : Prop :=
  ∃ owner ∈ keys, ∃ key ∈ keys, ∃ path, cause = .sharedPath owner key path ∧
    StagedAt layout disk key path ∧ Collide layout disk owner key

/-- A key that finds its path taken by another one collides with it. -/
theorem complains_of_claimed {keys : List String} {base' : Location} (known : other ∈ keys)
    (member : key ∈ keys) (different : other ≠ key)
    (resolved : disk.resolve (treeOf layout other) = .ok base')
    (resolved' : disk.resolve (treeOf layout key) = .ok base)
    (claimed : Claimed (fileIn base' other) base key cause) : Complains layout keys disk cause := by
  -- Each of the two is staged in its own tree, and the paths are the same.
  obtain ⟨rfl, same⟩ := claimed
  have stands := (stagedAt_iff resolved').2 rfl
  exact ⟨other, known, key, member, _, rfl, stands, different, _, _, (stagedAt_iff resolved).2 rfl,
    stands, same⟩

/-- Where staging complains of a key, the key collides with another one. -/
theorem stage_complains {reset : World}
    (stageable : ∀ key ∈ sources.keys, Key.isStageable key = true)
    (resolved : reset.disk.resolve layout.stagingRoot = .ok root)
    (directory : reset.disk.entryAt? root = some .directory)
    (ended : stage layout sources (ofNames root) reset = .error (.malformedSourceMap cause) final) :
    Complains layout sources.keys final.disk cause := by
  have treads : Keeps (Treads root (ownKeys sources.keys)) (stageOwn (ofNames root) sources) :=
    stageOwn_treads (plain_of_entryAt? directory)
      (fun key member => stageable key (List.mem_filter.1 member).1)
      fun key known belongs => List.mem_filter.2 ⟨known, by simp [belongs]⟩
  rcases Effect.bind_error ended with owned | ⟨staged, between, owned, ended⟩
  · -- One of the project's own files is led to another one of them.
    have adds : Adds _ _ reset.disk final.disk := treads.of_error owned
    have tree {key : String} (own : isOwn key = true) :
        final.disk.resolve (treeOf layout key) = .ok root := by
      simp only [isOwn, Option.isNone_iff_eq_none] at own
      simpa [treeOf, own] using adds.resolve resolved
    rw [stageOwn_eq] at owned
    obtain ⟨key, member, own, owner, claimed, before | ⟨earlier, known, different, own', rfl⟩⟩ :=
      stageChosen_claimed sources.distinct owned
    · cases before
    · exact complains_of_claimed known member different (tree own') (tree own) claimed
  rcases Effect.bind_error ended with opens | ⟨⟨dependencyRoot, preexisted⟩, opened, opens, ended⟩
  · obtain ⟨error, io⟩ := openDependencyRoot_fails _ _ _ _ _ opens
    cases io
  obtain ⟨-, deep, named, deepened, deepDirectory⟩ := openDependencyRoot_ok opens
  obtain rfl : dependencyRoot = ofNames deep := named
  have owning : Adds _ _ reset.disk between.disk := treads.of_ok owned
  have opening : Adds _ _ between.disk opened.disk := (openDependencyRoot_adds _ _).of_ok opens
  have filling : Adds _ _ opened.disk final.disk :=
    (finish_treads (plain_of_entryAt? deepDirectory) stageable (ofNames root) preexisted
      staged).of_error ended
  -- Both roots lead where they led, however far the staging has got.
  have rooted : Rooted layout final.disk root deep :=
    ⟨filling.resolve (opening.resolve (owning.resolve resolved)), filling.resolve deepened⟩
  obtain ⟨key, member, belongs, owner, claimed, standing⟩ := finish_claimed ended
  have tree {key : String} (belongs : (Key.package? key).isSome) :
      final.disk.resolve (treeOf layout key) = .ok deep := by
    simpa [baseOf, belongs] using rooted.tree key
  -- The path is taken by one of the project's own files, or by that of another library key.
  rcases standing with before | ⟨earlier, known, different, belongs', rfl⟩
  · obtain ⟨earlier, known, own, rfl⟩ := ((stageOwn_ok owned).2 owner).1 before
    have tree' : final.disk.resolve (treeOf layout earlier) = .ok root := by
      simpa [baseOf, own] using rooted.tree earlier
    refine complains_of_claimed known member ?_ tree' (tree belongs) claimed
    rintro rfl
    simp [own] at belongs
  · exact complains_of_claimed known member different (tree belongs') (tree belongs) claimed

/-- A build never comes to its end with two keys whose files would stand at one path; it complains of a
key only where there is another one with the same path; and so the files of a project stand at paths
that differ from each other. -/
theorem build_collisions (layout : Layout) (sources : SourceMap) (world : World) :
    (∀ key ∈ sources.keys, ∀ other ∈ sources.keys,
      Collide layout (diskAfter layout sources world) key other →
        ∀ project final, build layout sources world ≠ .ok project final) ∧
    (∀ cause final, build layout sources world = .error (.malformedSourceMap cause) final →
      Complains layout sources.keys final.disk cause) ∧
    ∀ project final, build layout sources world = .ok project final →
      (project.files.map fun file => Path.components file.path).Nodup ∧
        ∀ file ∈ project.files, StagedAt layout final.disk file.key file.path := by
  refine ⟨fun key member other member' ⟨different, path, path', stands, stands', same⟩ project final
    ended => ?_, fun cause final ended => ?_, fun project final ended => ?_⟩
  · obtain ⟨_, _, _, _, root, deep, built⟩ := build_ok ended
    have left : diskAfter layout sources world = final.disk := by
      rw [diskAfter, Effect.after_ok ended]
    rw [left, stagedAt_iff (built.rooted_after.tree _)] at stands stands'
    subst stands stands'
    -- The files of the two keys are among those of the project.
    have listed {key : String} (member : key ∈ sources.keys) :
        fileIn (baseOf root deep key) key ∈ project.files :=
      built.files ▸ List.mem_map_of_mem member
    exact built.standing.apart _ (listed member) _ (listed member')
      (fun one => different (congrArg StagedFile.key one)) same
  · rw [build_eq] at ended
    rcases requireStageable_cases sources.keys world with ⟨passed, stageable⟩ | ⟨key, -, -, refused⟩
    swap
    · rw [Effect.bind_of_error refused] at ended
      cases ended
    rw [Effect.bind_of_ok passed] at ended
    rcases Effect.bind_error ended with resetting | ⟨text, reset, resetting, staging⟩
    · obtain ⟨error, io⟩ := resetRoot_fails _ _ _ _ resetting
      cases io
    · obtain ⟨cleared, -, -, whole⟩ := resetRoot_resets layout.stagingRoot world
      obtain ⟨-, -, root, rfl, resolved, directory⟩ := whole text reset resetting
      exact stage_complains stageable resolved directory staging
  · obtain ⟨_, _, _, _, root, deep, built⟩ := build_ok ended
    refine ⟨built.nodup_components, fun file member => ?_⟩
    rw [built.files] at member
    obtain ⟨key, -, rfl⟩ := List.mem_map.1 member
    exact (stagedAt_iff (built.rooted_after.tree key)).2 rfl

/-- A key of the project itself that reaches into the dependency root, and a library key with the same
file there. -/
def sharedSources : SourceMap :=
  .ofList [("node_modules/@x/./A.sol", "contract A \x7b\x7d"), ("@x//A.sol", "contract B \x7b\x7d")]

/-- A build complains of these two keys. -/
theorem sharedSources_complains :
    ∃ cause final, build (.nested "/work/out") sharedSources
        (.fresh (.atHome ["work"]) (.scripted []) ⟨[], none⟩) = .error (.malformedSourceMap cause) final ∧
      Complains (.nested "/work/out") sharedSources.keys final.disk cause := by
  -- A run shows that the build fails for its sources, and the law tells of what.
  have outcome : (match build (.nested "/work/out") sharedSources
      (.fresh (.atHome ["work"]) (.scripted []) ⟨[], none⟩) with
    | .ok _ _ => false
    | .error failure _ => failure.kind == "MalformedSourceMap") = true := by decide +kernel
  split at outcome
  · cases outcome
  · rename_i failure final ended
    cases failure with
    | malformedSourceMap cause =>
      exact ⟨cause, final, ended, (build_collisions _ _ _).2.1 cause final ended⟩
    | _ => simp [Failure.kind] at outcome

end AuditStage.Staging
