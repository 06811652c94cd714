import AuditStage.Proofs.Disk.Renewal
import AuditStage.Proofs.Staging.Beside
import AuditStage.Proofs.Staging.Libraries
import AuditStage.Proofs.Staging.Rebuild

/-! Two builds one after the other: what the first one left in the staging root is gone, and what it left
outside is all that the second one may find. -/

namespace AuditStage.Staging

open AuditStage.Path (ofNames)
open Disk (Adds Alike Grows Renews)
open Effect (Ends)
open World (SameDisk)

variable {layout : Layout} {root text : String} {sources first second : SourceMap}
  {base location : Location} {keys : List String} {world reset bare later : World} {before after : Disk}

/-- A staging root has been made anew, and is a directory at a location. -/
structure MadeAnew (root : String) (world bare : World) (base : Location) : Prop where
  resetting : resetRoot root world = .ok (ofNames base) bare
  resolved : bare.disk.resolve root = .ok base
  directory : bare.disk.entryAt? base = some .directory

/-- The path that comes of making a staging root anew names where it lies. -/
theorem madeAnew_of_reset (resetting : resetRoot root world = .ok text bare) :
    ∃ base, text = ofNames base ∧ MadeAnew root world bare base := by
  obtain ⟨_, -, -, whole⟩ := resetRoot_resets root world
  obtain ⟨-, -, base, rfl, resolved, directory⟩ := whole text bare resetting
  exact ⟨base, rfl, resetting, resolved, directory⟩

/-- A build that ends well has made its staging root anew, and then staged its files. -/
theorem exists_madeAnew {project : Project} {final : World}
    (ended : build layout sources world = .ok project final) :
    ∃ base bare, MadeAnew layout.stagingRoot world bare base ∧
      stage layout sources (ofNames base) bare = .ok project final := by
  obtain ⟨-, text, bare, resetting, staged⟩ := build_stages ended
  obtain ⟨base, rfl, anew⟩ := madeAnew_of_reset resetting
  exact ⟨base, bare, anew, staged⟩

namespace MadeAnew

variable (anew : MadeAnew root world bare base)

include anew

/-- What has been made anew has been cleared and made a directory. -/
theorem making : ∃ cleared, Disk.clear root world.disk = .ok () cleared ∧
    Disk.makeDirectories root cleared = .ok () bare.disk := by
  obtain ⟨cleared, -, -, whole⟩ := resetRoot_resets root world
  obtain ⟨clearing, making, -⟩ := whole _ _ anew.resetting
  exact ⟨cleared, clearing, making⟩

/-- A staging root that was made anew can be made anew later on, which empties it and changes nothing
else. -/
theorem again (renews : Renews root world.disk) (grows : Grows bare.disk later.disk) :
    bare.disk.Bare base ∧ ∃ once, MadeAnew root later once base ∧
      Alike once.disk (later.disk.eraseBelow base) := by
  obtain ⟨cleared, clearing, making⟩ := anew.making
  -- The root was empty when it was new, and its path would name it if it were gone.
  obtain ⟨inside, empty, named⟩ := renews cleared bare.disk base clearing making anew.resolved
  obtain ⟨emptied, made, clearing', making', alike⟩ :=
    Disk.clear_again grows anew.directory inside empty named
  -- The path leads to the same place as before.
  have leads : made.resolve root = .ok base := by
    rw [alike.resolve]
    exact (grows.emptied empty).resolve anew.resolved
  have canonical : made.canonical root = .ok (ofNames base) := by
    simp only [Disk.canonical, leads, bind, Except.bind]
  have standing : made.entryAt? base = some .directory := by
    rw [alike.entries]
    exact (grows.emptied empty).directory _ anew.directory
  -- So the second reset does what the first one did.
  refine ⟨empty, { later with disk := made }, ⟨?_, leads, standing⟩, alike⟩
  simp only [resetRoot, makeRoot, Run.onDisk, Run.fromDisk, bind, EStateM.bind, clearing', making',
    canonical]

/-- A build leaves what is staged once the staging root has been made anew. -/
theorem after_build (stageable : ∀ key ∈ sources.keys, Key.isStageable key = true)
    (same : layout.stagingRoot = root) : Effect.after (build layout sources) world =
      Effect.after (stage layout sources (ofNames base)) bare := by
  -- The keys are accepted and the root is made anew, which leaves the staging to be done.
  subst same
  rw [build_eq, Effect.after_bind_of_ok (requireStageable_ok stageable world),
    Effect.after_bind_of_ok anew.resetting]

/-- A build that ends well has staged its files where the staging root has been made anew. -/
theorem stage_of_build {project : Project} {final : World} (same : layout.stagingRoot = root)
    (ended : build layout sources world = .ok project final) :
    stage layout sources (ofNames base) bare = .ok project final := by
  subst same
  obtain ⟨base', bare', other, staged⟩ := exists_madeAnew ended
  -- The staging root is made anew in one way.
  obtain ⟨text, rfl⟩ : ofNames base = ofNames base' ∧ bare = bare' := by
    simpa using anew.resetting.symm.trans other.resetting
  rw [text]
  exact staged

end MadeAnew

/-- The files of some keys are added to a disk, or it stays as it is. -/
theorem adds_of_filled {path : String} (course : after = before ∨ Filled path keys before after) :
    Adds (fun _ => True) (fun _ => True) before after := by
  -- Either nothing has been done yet, or files were added.
  rcases course with rfl | ⟨_, -, -, -, adds⟩
  · exact refl_of (Adds _ _) _
  · exact adds.mono (fun _ _ => trivial) fun _ _ => trivial

/-- What is staged adds to the disk on which the staging root has been made anew. -/
theorem stage_adds (stageable : ∀ key ∈ sources.keys, Key.isStageable key = true)
    (resolved : reset.disk.resolve layout.stagingRoot = .ok base)
    (directory : reset.disk.entryAt? base = some .directory) :
    Adds (fun _ => True) (fun _ => True) reset.disk
      (Effect.after (stage layout sources (ofNames base)) reset).disk := by
  obtain ⟨owned, opened, owning, opening, filling⟩ := stage_course stageable resolved directory
  have middle : Adds (fun _ => True) (fun _ => True) owned opened :=
    opening.mono (fun _ _ => trivial) fun _ _ => trivial
  exact trans_of (Adds _ _) (adds_of_filled owning)
    (trans_of (Adds _ _) middle (adds_of_filled filling))

/-- The files of some keys are staged below the directory that their path leads to, if no link lies
there. -/
theorem Filled.below {path : String} (filled : Filled path keys before after)
    (changed : after.entryAt? location ≠ before.entryAt? location) :
    ∃ base, before.resolve path = .ok base ∧ (Unlinked after base → base <+: location) := by
  obtain ⟨base, resolved, directory, stageable, adds⟩ := filled
  refine ⟨base, resolved, fun unlinked => ?_⟩
  -- Without links the names of a key lead where they say.
  obtain ⟨key, -, names, further, -, straight, -⟩ :=
    straight_of_traced directory stageable adds unlinked changed
  exact ⟨names, straight.symm⟩

/-- With a nested dependency root nothing is added outside of a staging root in which nothing lay. -/
theorem nested_outside {start owned opened : Disk} (resolved : start.resolve root = .ok base)
    (directory : start.entryAt? base = some .directory) (bare : start.Bare base)
    (owning : owned = start ∨ Filled root (ownKeys keys) start owned)
    (opening : Adds (Above (Path.join root Layout.dependencyName)) Never owned opened)
    (filling : after = opened ∨
      Filled (Path.join root Layout.dependencyName) (libraryKeys keys) opened after)
    (outside : ¬base <+: location) : after.entryAt? location = start.entryAt? location := by
  have early := adds_of_filled owning
  have late := adds_of_filled filling
  -- Nothing lay in the staging root, and no link is ever made.
  have unlinked : Unlinked after base := by
    intro names target further linked
    have found := early.linked (opening.linked (late.linked linked))
    rw [bare names further] at found
    cases found
  have rooted : owned.resolve root = .ok base := early.resolve resolved
  have unlinkedOpened : Unlinked opened base := unlinked.earlier late.toGrows
  -- The dependency root lies in the staging root, wherever it has been opened.
  have nested {deep : Location}
      (deepened : opened.resolve (Path.join root Layout.dependencyName) = .ok deep) :
      deep = base ++ [Layout.dependencyName] :=
    nested_location (opening.resolve rooted) unlinkedOpened deepened
  -- From the last phase to the first, each only changes what lies inside.
  have lately : after.entryAt? location = opened.entryAt? location := by
    rcases filling with rfl | filling
    · rfl
    by_contra changed
    obtain ⟨deep, deepened, below⟩ := filling.below changed
    obtain rfl := nested deepened
    exact outside ((List.prefix_append _ _).trans (below (unlinked.below _)))
  have between : opened.entryAt? location = owned.entryAt? location := by
    by_contra changed
    have joined : Adds (· = Path.join root Layout.dependencyName) Never owned opened :=
      opening.join rooted (early.directory _ directory) (by decide)
    obtain ⟨path, leads, ⟨rfl, -⟩ | ⟨never, -⟩⟩ := joined.reached location changed
    · exact outside (nested leads ▸ List.prefix_append _ _)
    · exact never.elim
  have first : owned.entryAt? location = start.entryAt? location := by
    rcases owning with rfl | owning
    · rfl
    by_contra changed
    obtain ⟨held, leads, below⟩ := owning.below changed
    obtain rfl : base = held := Except.ok.inj (resolved.symm.trans leads)
    exact outside (below (unlinkedOpened.earlier opening.toGrows))
  rw [lately, between, first]

/-- With a nested dependency root a build leaves nothing outside of its staging root. -/
theorem build_nested_outside (anew : MadeAnew root world bare base) (empty : bare.disk.Bare base)
    (stageable : ∀ key ∈ sources.keys, Key.isStageable key = true) (outside : ¬base <+: location) :
    (Effect.after (build (.nested root) sources) world).disk.entryAt? location =
      bare.disk.entryAt? location := by
  have staged : Effect.after (build (.nested root) sources) world =
      Effect.after (stage (.nested root) sources (ofNames base)) bare := anew.after_build stageable rfl
  rw [staged]
  -- No part of what is staged lies outside of the base.
  obtain ⟨owned, opened, owning, opening, filling⟩ :=
    @stage_course (.nested root) sources base bare stageable anew.resolved anew.directory
  exact nested_outside anew.resolved anew.directory empty owning opening filling outside

/-- After a build the staging root can be made anew again, and only what was left outside of it tells
the worlds apart. -/
theorem MadeAnew.after_first (anew : MadeAnew layout.stagingRoot world bare base)
    (renews : Renews layout.stagingRoot world.disk)
    (stageable : ∀ key ∈ first.keys, Key.isStageable key = true) {between : World}
    (built : Effect.after (build layout first) world = between) :
    bare.disk.Bare base ∧ Grows bare.disk between.disk ∧
      ∃ once, MadeAnew layout.stagingRoot between once base ∧
        World.Beside base between.disk bare.disk once bare := by
  -- Staging only adds, so all that the staging root was made in is still there.
  have adds := stage_adds stageable anew.resolved anew.directory
  rw [← anew.after_build stageable rfl, built] at adds
  obtain ⟨empty, once, againAnew, alike⟩ := anew.again renews adds.toGrows
  exact ⟨empty, adds.toGrows, once, againAnew,
    Disk.beside_of_emptied adds anew.directory empty alike⟩

/-- A project that was built after another one has the same files as one that was built at once. What
tells them apart was left outside the staging root: places to which neither build has written, and
packages that are found there. -/
structure Leftover (base : Location) (left bare : Disk) (later direct : Project)
    (final final' : Disk) : Prop extends SameFiles later direct where
  entries : ∀ location, final.entryAt? location = final'.entryAt? location ∨
    (¬base <+: location ∧ final.entryAt? location = left.entryAt? location ∧
      final'.entryAt? location = bare.entryAt? location)
  kept : ∀ package ∈ direct.libraries, package ∈ later.libraries
  found : ∀ package ∈ later.libraries, package ∉ direct.libraries →
    ∃ deep, later.dependencyRoot = ofNames deep ∧ ¬base <+: deep ++ [package] ∧
      left.entryAt? (deep ++ [package]) = some .directory

/-- The packages that are found are those that were left outside the staging root. -/
theorem leftover_of_beside {between final final' : World} {project direct : Project}
    (grows : Grows bare.disk between.disk)
    (ended : build layout second between = .ok project final)
    (ended' : build layout second world = .ok direct final') (same : SameFiles project direct)
    (beside : World.Beside base between.disk bare.disk final final') :
    Leftover base between.disk bare.disk project direct final.disk final'.disk := by
  have entries : ∀ location, final.disk.entryAt? location = final'.disk.entryAt? location ∨
      (¬base <+: location ∧ final.disk.entryAt? location = between.disk.entryAt? location ∧
        final'.disk.entryAt? location = bare.disk.entryAt? location) := Disk.Beside.entries beside
  obtain ⟨deep, named, plain, listed⟩ := mem_libraries_iff ended
  obtain ⟨deep', named', plain', listed'⟩ := mem_libraries_iff ended'
  -- Both projects have one dependency root, so their packages are looked for at one place.
  obtain rfl : deep = deep' :=
    Path.ofNames_inj plain plain' (named.symm.trans (same.dependencyRoot.trans named'))
  refine ⟨same, entries, fun package member => ?_, fun package member absent => ?_⟩
  · rw [listed'] at member
    rw [listed]
    refine member.imp_right fun ⟨found, marked⟩ => ⟨?_, marked⟩
    -- What is left of the earlier build has all that the staging root was made in.
    rcases entries (deep ++ [package]) with equal | ⟨-, first, second⟩
    · rw [equal, found]
    · rw [first]
      exact grows.directory _ (second ▸ found)
  · rw [listed] at member
    rw [listed', not_or] at absent
    -- A package that only the later build has found was a directory there, and not inside.
    obtain ⟨found, marked⟩ := member.resolve_left absent.1
    rcases entries (deep ++ [package]) with equal | ⟨outside, first, -⟩
    · exact absurd ⟨equal ▸ found, marked⟩ absent.2
    · exact ⟨deep, named, outside, first ▸ found⟩

/-- The staging root of a project is the one in which its files were staged. -/
theorem stagingRoot_of_stage {project : Project} {final : World}
    (staged : stage layout sources text bare = .ok project final) : project.stagingRoot = text := by
  obtain ⟨files, owned, deep, preexisted, opened, -, -, finishing⟩ := stage_ok staged
  obtain ⟨all, filled, found, -, -, -, rfl⟩ := finish_staged finishing
  rfl

/-- Of two builds one after the other, the second one stages the same files as it would have staged at
once, and finds nothing of the first one in the staging root. Where the first one has left nothing
outside of the staging root, as it never does with a nested dependency root, the second one comes to the
same end in all. -/
theorem build_successive (layout : Layout) (first second : SourceMap) {world : World}
    (renews : Renews layout.stagingRoot world.disk) :
    (∀ later direct final final',
      build layout second (Effect.after (build layout first) world) = .ok later final →
      build layout second world = .ok direct final' →
      ∃ base bare, MadeAnew layout.stagingRoot world bare base ∧ direct.stagingRoot = ofNames base ∧
        Leftover base (Effect.after (build layout first) world).disk bare.disk later direct final.disk
          final'.disk) ∧
    ((∀ key ∈ second.keys, Key.isStageable key = true) →
      ∀ base bare, MadeAnew layout.stagingRoot world bare base →
        (layout = .nested layout.stagingRoot ∨ ∀ location, ¬base <+: location →
          (Effect.after (build layout first) world).disk.entryAt? location =
            bare.disk.entryAt? location) →
        Ends SameDisk (build layout second (Effect.after (build layout first) world))
          (build layout second world)) := by
  -- A first build that is refused has left everything as it was.
  rcases requireStageable_cases first.keys world with ⟨-, stageable⟩ | ⟨key, -, -, refused⟩
  swap
  · have nothing : Effect.after (build layout first) world = world := by
      rw [build_eq, Effect.after_bind_of_error refused]
    rw [nothing]
    refine ⟨fun later direct final final' ended ended' => ?_, fun fits _ _ _ _ =>
      build_ends fits (Disk.clear_blind _ _ _ (Alike.refl world.disk))⟩
    rw [ended] at ended'
    cases ended'
    obtain ⟨base, bare, anew, staged⟩ := exists_madeAnew ended
    exact ⟨base, bare, anew, stagingRoot_of_stage staged, ⟨rfl, rfl, rfl⟩, fun _ => .inl rfl,
      fun _ member => member, fun _ member absent => absurd member absent⟩
  generalize left : Effect.after (build layout first) world = between
  constructor
  · intro later direct final final' ended ended'
    obtain ⟨base, bare, anew, staged⟩ := exists_madeAnew ended'
    -- Both builds stage the same files, beginning with disks that differ outside the staging root.
    obtain ⟨-, grows, once, againAnew, beside⟩ := anew.after_first renews stageable left
    obtain ⟨same, beside⟩ := stage_agrees beside (againAnew.stage_of_build rfl ended) staged
    exact ⟨base, bare, anew, stagingRoot_of_stage staged,
      leftover_of_beside grows ended ended' same beside⟩
  · intro fits base bare anew nothing
    obtain ⟨empty, -, once, againAnew, beside⟩ := anew.after_first renews stageable left
    -- A nested dependency root leaves nothing outside, and else it is taken for granted.
    have outside (location : Location) (apart : ¬base <+: location) :
        between.disk.entryAt? location = bare.disk.entryAt? location := by
      rcases nothing with nested | nothing
      · rw [← left, nested]
        exact build_nested_outside anew empty stageable apart
      · exact nothing location apart
    have alike : SameDisk once bare := Disk.Beside.alike beside outside
    refine build_ends_of_reset fits ?_
    rw [anew.resetting, againAnew.resetting]
    exact .ok alike

/-- Sources of a package alone. -/
def packageSources : SourceMap :=
  .ofList [("@a/A.sol", "contract A \x7b\x7d")]

/-- Sources without a package. -/
def plainSources : SourceMap :=
  .ofList [("B.sol", "contract B \x7b\x7d")]

/-- Roots that lie beside each other. -/
def apartLayout : Layout :=
  ⟨"/work/out", "/work/deps"⟩

/-- A package that was staged outside the staging root is found by the next build. -/
theorem apartLayout_libraries :
    ∃ later direct final final',
      build apartLayout plainSources (Effect.after (build apartLayout packageSources)
        (worldWith (.atHome ["work"]))) = .ok later final ∧
      build apartLayout plainSources (worldWith (.atHome ["work"])) = .ok direct final' ∧
      later.libraries = ["@a"] ∧ direct.libraries = [] := by
  -- Both builds come to their end, and only one has found the package.
  have outcome : (match build apartLayout plainSources (Effect.after (build apartLayout packageSources)
        (worldWith (.atHome ["work"]))), build apartLayout plainSources (worldWith (.atHome ["work"])) with
    | .ok later _, .ok direct _ => decide (later.libraries = ["@a"] ∧ direct.libraries = [])
    | _, _ => false) = true := by decide +kernel
  split at outcome
  · rename_i later final direct final' ended ended'
    obtain ⟨found, none⟩ := of_decide_eq_true outcome
    exact ⟨later, direct, final, final', ended, ended', found, none⟩
  · cases outcome

/-- The package is left over where the roots lie beside each other, and gone where they are nested. -/
theorem apartLayout_successive :
    (∃ later direct final final' base bare,
      Leftover base (Effect.after (build apartLayout packageSources)
        (worldWith (.atHome ["work"]))).disk bare later direct final final' ∧
      later.libraries = ["@a"] ∧ direct.libraries = []) ∧
    Ends SameDisk
      (build (.nested "/work/out") plainSources
        (Effect.after (build (.nested "/work/out") packageSources) (worldWith (.atHome ["work"]))))
      (build (.nested "/work/out") plainSources (worldWith (.atHome ["work"]))) := by
  -- The path of the root does not lead up, so it can be made anew.
  have renews : Renews "/work/out" (worldWith (.atHome ["work"])).disk :=
    Disk.renews_of_downward (by decide)
  have stageable : ∀ key ∈ plainSources.keys, Key.isStageable key = true := by decide
  obtain ⟨later, direct, final, final', ended, ended', found, none⟩ := apartLayout_libraries
  obtain ⟨base, bare, anew, -, leftover⟩ :=
    (build_successive apartLayout packageSources plainSources renews).1 later direct final final'
      ended ended'
  exact ⟨⟨later, direct, _, _, base, _, leftover, found, none⟩,
    (build_successive (.nested "/work/out") packageSources plainSources renews).2 stageable base bare
      anew (.inl rfl)⟩

/-- A build may find a package that an earlier build has left in a dependency root outside the staging
root. -/
theorem not_successive_apartLayout :
    ¬ ∀ (layout : Layout) (first second : SourceMap) (world final final' : World)
        (later direct : Project),
      build layout second (Effect.after (build layout first) world) = .ok later final →
      build layout second world = .ok direct final' →
        later.libraries = direct.libraries ∧
        ∀ base, ofNames base = direct.stagingRoot ∨ ofNames base = direct.dependencyRoot →
          ∀ names, final.disk.entryAt? (base ++ names) = final'.disk.entryAt? (base ++ names) := by
  intro leakless
  obtain ⟨later, direct, final, final', ended, ended', found, none⟩ := apartLayout_libraries
  -- The libraries of the two projects would have to be the same.
  have same := (leakless _ _ _ _ _ _ _ _ ended ended').1
  rw [found, none] at same
  cases same

end AuditStage.Staging
