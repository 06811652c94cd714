import AuditStage.Proofs.Staging.Course

/-! What a build may change: its two roots, the missing directories above them, and what the links that
stand on the way of a key lead to. -/

namespace AuditStage.Staging

open Disk (Adds Clears Grows linkLimit)

/-- The disk that a build leaves behind, whether it succeeds or fails. -/
def diskAfter (layout : Layout) (sources : SourceMap) (world : World) : Disk :=
  (Effect.after (build layout sources) world).disk

/-- A location lies where the staging root lay, where it lies now, or where the dependency root lies
now, or below one of these. -/
def InRoots (layout : Layout) (before after : Disk) (location : Location) : Prop :=
  ∃ root, (before.ownLocation layout.stagingRoot = .ok root ∨
    after.resolve layout.stagingRoot = .ok root ∨ after.resolve layout.dependencyRoot = .ok root) ∧
    root <+: location

/-- A location is that of a directory above one of the roots that was missing and has been made. -/
def MadeAbove (layout : Layout) (before after : Disk) (location : Location) : Prop :=
  before.entryAt? location = none ∧ after.entryAt? location = some .directory ∧
    ∃ path, (path ∈ Path.pathsAbove layout.stagingRoot ∨
      path ∈ Path.pathsAbove layout.dependencyRoot) ∧ after.resolve path = .ok location

/-- Nothing has changed outside the roots but for the missing directories above them. -/
def Contained (layout : Layout) (before after : Disk) : Prop :=
  ∀ location, after.entryAt? location ≠ before.entryAt? location →
    InRoots layout before after location ∨ MadeAbove layout before after location

/-- The root in which the file of a key is staged. -/
def treeOf (layout : Layout) (key : String) : String :=
  if (Key.package? key).isSome then layout.dependencyRoot else layout.stagingRoot

/-- A key leads to a location through a link that stood on its way, below its root, before the build. -/
def Strays (layout : Layout) (before after : Disk) (key : String) (location : Location) : Prop :=
  ∃ root names spare, after.resolve (treeOf layout key) = .ok root ∧ names <+: Key.names key ∧
    after.follow linkLimit [] (root ++ names) = .ok (location, spare) ∧
    ∃ way target, way ≠ [] ∧ way <+: names ∧ before.entryAt? (root ++ way) = some (.link target)

variable {layout : Layout} {keys : List String} {path : String} {location : Location}
  {before cleared reset owned opened after : Disk}

/-- A path is that of one of the two roots. -/
def IsRoot (layout : Layout) (path : String) : Prop :=
  path = layout.stagingRoot ∨ path = layout.dependencyRoot

/-- What lies below a root as it is found at the end lies in the roots. -/
theorem IsRoot.inRoots {root : Location} (rooted : IsRoot layout path)
    (resolved : after.resolve path = .ok root) (below : root <+: location) :
    InRoots layout before after location := by
  rcases rooted with rfl | rfl
  · exact ⟨root, .inr (.inl resolved), below⟩
  · exact ⟨root, .inr (.inr resolved), below⟩

/-- What is new once a root has been made is the root itself or a missing directory above it. -/
theorem IsRoot.made {first next : Disk} (rooted : IsRoot layout path)
    (adds : Adds (Above path) Never first next) (grows : Grows next after)
    (old : first.entryAt? location = before.entryAt? location)
    (changed : next.entryAt? location ≠ first.entryAt? location) :
    InRoots layout before after location ∨ MadeAbove layout before after location := by
  obtain ⟨reaching, resolved, ⟨known, free, made⟩ | ⟨never, -⟩⟩ := adds.reached location changed
  · have resolved := grows.resolve resolved
    -- The new location is that of the root, or of a directory above it.
    rcases List.mem_cons.1 known with rfl | above
    · exact .inl (rooted.inRoots resolved List.prefix_rfl)
    · refine .inr ⟨old ▸ free, grows.directory _ made, reaching, ?_, resolved⟩
      -- Which root it is tells whose paths above it are meant.
      rcases rooted with rfl | rfl
      · exact .inl above
      · exact .inr above
  · exact never.elim

/-- What is new once files have been staged lies below their root, or a key has led there through a
link. -/
theorem IsRoot.filled {first next : Disk} {chosen : List String} (rooted : IsRoot layout path)
    (filled : Filled path chosen first next) (grows : Grows next after)
    (trees : ∀ key ∈ chosen, key ∈ keys ∧ treeOf layout key = path)
    (links : ∀ location target, first.entryAt? location = some (.link target) →
      before.entryAt? location = some (.link target))
    (changed : next.entryAt? location ≠ first.entryAt? location) :
    InRoots layout before after location ∨ ∃ key ∈ keys, Strays layout before after key location := by
  obtain ⟨root, resolved, directory, stageable, adds⟩ := filled
  have resolved := grows.resolve (adds.resolve resolved)
  -- A key has led there, be it straight down or through a link.
  obtain ⟨key, member, names, spare, further, inside, walked, -⟩ :=
    traced directory stageable adds changed
  by_cases straight : ∀ way, way ≠ [] → way <+: names → ∀ target,
      next.entryAt? (root ++ way) ≠ some (.link target)
  · -- Without a link the names lead straight down from the root.
    have plain := Key.names_plain (stageable key member)
    have there := Disk.follow_straight (adds.directory _ directory)
      (fun name within => plain name (inside.subset within)) straight walked
    exact .inl (rooted.inRoots resolved (there ▸ List.prefix_append root names))
  · simp only [not_forall, Decidable.not_not] at straight
    obtain ⟨way, some, shorter, target, linked⟩ := straight
    -- With a link on its way, the key itself strays.
    obtain ⟨known, tree⟩ := trees key member
    exact .inr ⟨key, known, root, names, spare, tree ▸ resolved, inside, grows.follow walked, way,
      target, some, shorter, links _ _ (adds.linked linked)⟩

/-- The staging of files, if it comes to it, loses nothing. -/
theorem grows_of_filled (filling : after = before ∨ Filled path keys before after) :
    Grows before after := by
  rcases filling with rfl | ⟨root, -, -, -, adds⟩
  · exact refl_of Grows after
  · exact adds.toGrows

/-- The staging of files, if it comes to it, makes no link. -/
theorem linked_of_filled (filling : after = before ∨ Filled path keys before after) {target : String}
    (found : after.entryAt? location = some (.link target)) :
    before.entryAt? location = some (.link target) := by
  rcases filling with rfl | ⟨root, -, -, -, adds⟩
  · exact found
  · exact adds.linked found

/-- All that changes in the course of a build lies in the roots, is a missing directory above them, or
is what a key has led to through a link. -/
theorem Course.reaches (course : Course layout keys before cleared reset owned opened after)
    (changed : after.entryAt? location ≠ before.entryAt? location) :
    InRoots layout before after location ∨ MadeAbove layout before after location ∨
      ∃ key ∈ keys, Strays layout before after key location := by
  have filling := grows_of_filled course.filling
  have fromOwned := trans_of Grows course.opening.toGrows filling
  have fromReset := trans_of Grows (grows_of_filled course.owning) fromOwned
  -- No part of the build makes a link.
  have links : ∀ location target, reset.entryAt? location = some (.link target) →
      before.entryAt? location = some (.link target) := fun _ _ linked =>
    course.clearing.grows.link _ _ (course.resetting.linked linked)
  -- The first part of the course that changes the location decides.
  by_cases same : cleared.entryAt? location = before.entryAt? location
  swap
  · obtain ⟨root, own, below⟩ := course.clearing.below location same
    exact .inl ⟨root, .inl own, below⟩
  by_cases atReset : reset.entryAt? location = cleared.entryAt? location
  swap
  · exact (IsRoot.made (.inl rfl) course.resetting fromReset same atReset).imp_right .inl
  have same := atReset.trans same
  by_cases atOwned : owned.entryAt? location = reset.entryAt? location
  swap
  · have filled := course.owning.resolve_left fun same => atOwned (same ▸ rfl)
    refine (IsRoot.filled (.inl rfl) filled fromOwned (fun key member => ?_) links atOwned).imp_right
      .inr
    -- A file of the project itself is staged in the staging root.
    obtain ⟨known, none⟩ := List.mem_filter.1 member
    exact ⟨known, by simp [treeOf, Option.isNone_iff_eq_none.1 none]⟩
  have same := atOwned.trans same
  by_cases atOpened : opened.entryAt? location = owned.entryAt? location
  swap
  · exact (IsRoot.made (.inr rfl) course.opening filling same atOpened).imp_right .inl
  -- All other parts have left the location as it was, so the last one has changed it.
  have late : after.entryAt? location ≠ opened.entryAt? location := fun last =>
    changed (last.trans (atOpened.trans same))
  have filled := course.filling.resolve_left fun same => late (same ▸ rfl)
  refine (IsRoot.filled (.inr rfl) filled (refl_of Grows after) (fun key member => ?_)
    (fun _ _ linked => links _ _ (linked_of_filled course.owning (course.opening.linked linked)))
    late).imp_right .inr
  -- A file of a package is staged in the dependency root.
  obtain ⟨known, belongs⟩ := List.mem_filter.1 member
  exact ⟨known, by simp [treeOf, belongs]⟩

/-- A build changes nothing outside its roots exactly if no key leads out of them through a link to
something that it changes; and if no link stands on the way of a key, it changes nothing there. -/
theorem build_contained_iff (layout : Layout) (sources : SourceMap) (world : World) :
    (Contained layout world.disk (diskAfter layout sources world) ↔
      ∀ key ∈ sources.keys, ∀ location,
        (diskAfter layout sources world).entryAt? location ≠ world.disk.entryAt? location →
        Strays layout world.disk (diskAfter layout sources world) key location →
        InRoots layout world.disk (diskAfter layout sources world) location ∨
          MadeAbove layout world.disk (diskAfter layout sources world) location) ∧
    ((∀ key ∈ sources.keys, ∀ root way target,
        (diskAfter layout sources world).resolve (treeOf layout key) = .ok root →
        way ≠ [] → way <+: Key.names key → world.disk.entryAt? (root ++ way) ≠ some (.link target)) →
      Contained layout world.disk (diskAfter layout sources world)) := by
  obtain ⟨cleared, reset, owned, opened, course⟩ := build_course layout sources world
  -- All other changes lie in the roots or above them anyway.
  have enough (straying : ∀ key ∈ sources.keys, ∀ location,
      (diskAfter layout sources world).entryAt? location ≠ world.disk.entryAt? location →
      Strays layout world.disk (diskAfter layout sources world) key location →
      InRoots layout world.disk (diskAfter layout sources world) location ∨
        MadeAbove layout world.disk (diskAfter layout sources world) location) :
      Contained layout world.disk (diskAfter layout sources world) := by
    intro location changed
    rcases course.reaches changed with inside | above | ⟨key, member, strays⟩
    · exact .inl inside
    · exact .inr above
    · exact straying key member location changed strays
  refine ⟨⟨fun contained key _ location changed _ => contained location changed, enough⟩,
    fun straight => enough fun key member location _ strays => ?_⟩
  -- A key that strays has met a link, and there is none on its way.
  obtain ⟨root, names, spare, resolved, inside, -, way, target, some, shorter, linked⟩ := strays
  exact absurd linked (straight key member root way target resolved some (shorter.trans inside))

/-- A dependency root that came with a link in the place of a package. -/
def linkedDisk : Disk :=
  (((Disk.atHome ["work", "deps"]).put ["work", "outside"] .directory).put
    ["work", "deps", "@x"] (.link "../outside"))

/-- Such a link leads a build out of both roots: its file lands where the link leads. -/
theorem not_contained_linkedDisk :
    ¬ ∀ (layout : Layout) (sources : SourceMap) (world : World),
      Contained layout world.disk (diskAfter layout sources world) := by
  intro contained
  let layout : Layout := ⟨"/work/out", "/work/deps"⟩
  let sources : SourceMap := SourceMap.ofList [("@x/A.sol", "contract A {}")]
  let world : World := .fresh linkedDisk (.scripted []) ⟨[], none⟩
  have written : (diskAfter layout sources world).entryAt? ["work", "outside", "A.sol"] =
      some (.file "contract A {}") := by decide +kernel
  have free : world.disk.entryAt? ["work", "outside", "A.sol"] = none := by decide +kernel
  -- The file would have to lie in one of the roots or above them.
  rcases contained layout sources world ["work", "outside", "A.sol"] (by simp [written, free]) with
    ⟨root, lies, below⟩ | ⟨-, made, -⟩
  · -- The link stands on the way to neither of the roots.
    have place : root = ["work", "out"] ∨ root = ["work", "deps"] := by
      rcases lies with own | staging | dependency
      · have known : world.disk.ownLocation layout.stagingRoot = .ok ["work", "out"] := by
          decide +kernel
        exact .inl (Except.ok.inj (own.symm.trans known))
      · have known : (diskAfter layout sources world).resolve layout.stagingRoot =
            .ok ["work", "out"] := by decide +kernel
        exact .inl (Except.ok.inj (staging.symm.trans known))
      · have known : (diskAfter layout sources world).resolve layout.dependencyRoot =
            .ok ["work", "deps"] := by decide +kernel
        exact .inr (Except.ok.inj (dependency.symm.trans known))
    rcases place with rfl | rfl
    · exact absurd below (by decide)
    · exact absurd below (by decide)
  · simp [written] at made

end AuditStage.Staging
