import AuditStage.Proofs.Disk.Guided
import AuditStage.Proofs.Staging.Course

/-! Staging one set of sources on two disks that have the same links and differ in what was left outside
the staging root: the files come to the same places. -/

namespace AuditStage

open Disk (Beside)
open Effect (Agrees)

variable {α : Type} {base : Location} {left bare : Disk}

/-- Two worlds have disks that differ in what was left outside a location. -/
def World.Beside (base : Location) (left bare : Disk) : World → World → Prop :=
  Order.Preimage World.disk (Disk.Beside base left bare)

namespace Run

/-- Changing the disk agrees in two worlds if the change agrees on their disks. -/
theorem onDisk_agrees {action : Disk.Action α} (agrees : Agrees (Disk.Beside base left bare) action) :
    Agrees (World.Beside base left bare) (onDisk action) := by
  intro one two _ _ one' two' same ended ended'
  -- All that either run changes of its world is the disk.
  obtain ⟨disk, done, rfl⟩ := onDisk_ok ended
  obtain ⟨disk', done', rfl⟩ := onDisk_ok ended'
  exact agrees _ _ _ _ _ _ same done done'

end Run

namespace Staging

variable {layout : Layout} {sources : SourceMap} {one two one' two' : World}

/-- A root that is made on both disks has one canonical path. -/
theorem makeRoot_agrees (root : String) : Agrees (World.Beside base left bare) (makeRoot root) := by
  intro one two text text' one' two' same ended ended'
  obtain ⟨made, location, rfl, resolved, -⟩ := makeRoot_ok ended
  obtain ⟨made', location', rfl, resolved', -⟩ := makeRoot_ok ended'
  obtain ⟨-, beside⟩ := Disk.makeDirectories_beside root _ _ _ _ _ _ same made made'
  -- The path leads to one place, since the links are the same.
  rw [beside.toSameLinks.resolve resolved resolved']
  exact ⟨rfl, beside⟩

/-- Staging a file agrees on both disks. -/
theorem stageFile_agrees (staged : List StagedFile) (file : StagedFile) (content : String) :
    Agrees (World.Beside base left bare) (stageFile staged file content) := by
  unfold stageFile
  -- A path that is taken is taken on both disks, for that is told by the files staged so far.
  split
  · exact .throw _
  · exact (Run.onDisk_agrees (Disk.writeFile_beside _ _)).bind fun _ => .pure _

/-- Staging the files that belong to no package agrees on both disks. -/
theorem stageOwn_agrees (root : String) (sources : SourceMap) :
    Agrees (World.Beside base left bare) (stageOwn root sources) := by
  refine .foldlM (fun (key, content) staged => ?_) []
  dsimp only
  split
  · exact .pure _
  · exact stageFile_agrees _ _ _

/-- Staging the files of a package agrees on both disks. -/
theorem stagePackage_agrees (root : String) (sources : SourceMap) (staged : List StagedFile)
    (package : String) : Agrees (World.Beside base left bare) (stagePackage root sources staged package) := by
  -- The directory of the package comes first, and then file by file.
  refine (Run.onDisk_agrees (Disk.makeDirectories_beside _)).bind fun _ =>
    .foldlM (fun (key, content) staged => ?_) staged
  dsimp only
  split
  · exact stageFile_agrees _ _ _
  · exact .pure _

/-- A dependency root that is opened on both disks has one path, whether or not it was there before. -/
theorem openDependencyRoot_agrees {stagingRoot : String} {pair pair' : String × Bool}
    (same : World.Beside base left bare one two)
    (ended : openDependencyRoot layout stagingRoot one = .ok pair one')
    (ended' : openDependencyRoot layout stagingRoot two = .ok pair' two') :
    pair.1 = pair'.1 ∧ World.Beside base left bare one' two' := by
  obtain ⟨⟨made, making, disk⟩, -⟩ := openDependencyRoot_made ended
  obtain ⟨⟨made', making', disk'⟩, -⟩ := openDependencyRoot_made ended'
  -- That it was there before on one disk only may be noted, but changes no disk.
  obtain ⟨text, beside⟩ := makeRoot_agrees _ _ _ _ _ _ _ same making making'
  refine ⟨text, ?_⟩
  show Disk.Beside base left bare one'.disk two'.disk
  rw [disk, disk']
  exact beside

/-- Two projects have the same roots and the same files. -/
structure SameFiles (project project' : Project) : Prop where
  stagingRoot : project.stagingRoot = project'.stagingRoot
  dependencyRoot : project.dependencyRoot = project'.dependencyRoot
  files : project.files = project'.files

/-- The libraries are staged at the same places on both disks. -/
theorem finish_agrees {stagingRoot dependencyRoot : String} {preexisted preexisted' : Bool}
    {staged : List StagedFile} {project project' : Project} (same : World.Beside base left bare one two)
    (ended : finish stagingRoot dependencyRoot preexisted sources staged one = .ok project one')
    (ended' : finish stagingRoot dependencyRoot preexisted' sources staged two = .ok project' two') :
    SameFiles project project' ∧ World.Beside base left bare one' two' := by
  obtain ⟨all, filled, found, packages, disk, -, rfl⟩ := finish_staged ended
  obtain ⟨all', filled', found', packages', disk', -, rfl⟩ := finish_staged ended'
  have agrees : Agrees (World.Beside base left bare)
      ((Key.packagesOf sources.keys).foldlM (stagePackage dependencyRoot sources) staged) :=
    .foldlM (fun package staged => stagePackage_agrees _ _ _ _) _
  -- What comes after the packages only reads the disk.
  obtain ⟨rfl, beside⟩ := agrees _ _ _ _ _ _ same packages packages'
  refine ⟨⟨rfl, rfl, rfl⟩, ?_⟩
  show Disk.Beside base left bare one'.disk two'.disk
  rw [disk, disk']
  exact beside

/-- Once the staging root has been made anew, the same files are staged at the same places on both
disks. -/
theorem stage_agrees {stagingRoot : String} {project project' : Project}
    (same : World.Beside base left bare one two)
    (ended : stage layout sources stagingRoot one = .ok project one')
    (ended' : stage layout sources stagingRoot two = .ok project' two') :
    SameFiles project project' ∧ World.Beside base left bare one' two' := by
  obtain ⟨staged, owned, deep, preexisted, opened, owning, opening, finishing⟩ := stage_ok ended
  obtain ⟨staged', owned', deep', preexisted', opened', owning', opening', finishing'⟩ := stage_ok ended'
  -- One part after the other comes to the same on both disks.
  obtain ⟨rfl, same⟩ := stageOwn_agrees _ _ _ _ _ _ _ _ same owning owning'
  obtain ⟨roots, same⟩ := openDependencyRoot_agrees same opening opening'
  obtain rfl : deep = deep' := roots
  exact finish_agrees same finishing finishing'

end Staging

end AuditStage
